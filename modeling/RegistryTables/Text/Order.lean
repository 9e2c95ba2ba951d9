/-
  Two orders of strings. Lists of names are kept in the order of code points, which
  is the order `≤` of strings; two strings are compared by their UTF-8 bytes. Neither
  normalises anything.
-/
namespace RegistryTables.Text

def utf8 (s : String) : List UInt8 := s.toList.flatMap String.utf8EncodeChar

def compareBytes (s t : String) : Ordering := List.compareLex compare (utf8 s) (utf8 t)

def compareCodePoints (s t : String) : Ordering :=
  List.compareLex (fun c d => compare c.toNat d.toNat) s.toList t.toList

end RegistryTables.Text
