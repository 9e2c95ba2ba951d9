/-
  Identifiers of registered types, such as `minecraft:stone`.

  An identifier is any string. Its first `:`, if it has one, ends its namespace. An
  identifier that starts with `minecraft:item.` is an item view: the item through
  which a block is seen. Registries know a block by its identifier without any
  `item.`, wherever it stands.
-/
namespace RegistryTables

/-- A namespaced identifier. Identifiers are ordered as strings, by code point, so a
separator is a character like any other: `a0:c` stands before `a:b`. -/
abbrev Identifier := String

namespace Identifier

def vanilla (key : String) : Identifier := "minecraft:" ++ key

/-- What stands before the first `:`, or nothing if there is none. -/
def namespace? (id : Identifier) : Option String :=
  if ':' ∈ id.toList then some (String.ofList (id.toList.takeWhile (· ≠ ':'))) else none

/-- What stands after the first `:`, or everything if there is none. -/
def key (id : Identifier) : String :=
  if ':' ∈ id.toList then String.ofList ((id.toList.dropWhile (· ≠ ':')).drop 1) else id

def itemViewMark : List Char := "minecraft:item.".toList

/-- What follows `minecraft:item.` in an item view. -/
def itemViewRest? (id : Identifier) : Option (List Char) := itemViewMark.isPrefixOf? id.toList

def isItemView (id : Identifier) : Bool := id.itemViewRest?.isSome

/-- The identifier without the `item.` that makes it an item view; any other identifier
stays as it is. -/
def stripItemView (id : Identifier) : Identifier :=
  match id.itemViewRest? with
  | some rest => vanilla (String.ofList rest)
  | none => id

/-- The characters without any `item.`, found from left to right in one pass: what is
left is not searched again. -/
def dropInfixes : List Char → List Char
  | 'i' :: 't' :: 'e' :: 'm' :: '.' :: rest => dropInfixes rest
  | c :: rest => c :: dropInfixes rest
  | [] => []

/-- The identifier without any `item.`: the name a block is registered under. -/
def withoutItemInfixes (id : Identifier) : Identifier := String.ofList (dropInfixes id.toList)

end Identifier

end RegistryTables
