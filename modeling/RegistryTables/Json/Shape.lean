import RegistryTables.LegacyId
import RegistryTables.Json.Token

/-
  Readers for JSON of a known shape.

  A shape reads one value from the front of a list of tokens. It checks types as it
  goes, so the first problem of a text decides, whether it is one of type or one of
  form. Shapes are put together: an array of a shape, an object whose members all have
  one shape.
-/
namespace RegistryTables.Json

/-- A reader of one value. It gives the value and the tokens behind it, which are fewer. -/
structure Shape (α : Type) where
  read : List Token → Except Fault (α × List Token)
  read_length : ∀ {ts : List Token} {a : α} {rest : List Token},
    read ts = .ok (a, rest) → rest.length < ts.length

/-- What is wrong if a value of another type stands here. An opening bracket is enough to
see that the type is wrong; any other value is read to its end first. -/
def misfit : List Token → Fault
  | [] => .truncated
  | .openArray :: _ | .openObject :: _ => .mismatch
  | .text (some _) :: _ | .integer _ :: _ | .decimal false :: _ | .literal :: _ => .mismatch
  | .text none :: _ | .decimal true :: _ => .malformed
  | .brokenText b :: _ | .broken b :: _ => b.read
  | .closeArray :: _ | .closeObject :: _ | .comma :: _ | .colon :: _ => .malformed

/-- What is wrong if none of the marks that may follow a value stands here. -/
def unexpected : List Token → Fault
  | [] => .truncated
  | _ :: _ => .malformed

/-- A key and its colon, and the tokens behind them. -/
def readKey : List Token → Except Fault (String × List Token)
  | .text (some k) :: .colon :: ts => .ok (k, ts)
  | .text (some _) :: ts => .error (unexpected ts)
  | .brokenText b :: _ => .error b.read
  | ts => .error (unexpected ts)

theorem readKey_length {ts rest : List Token} {k : String} (h : readKey ts = .ok (k, rest)) :
    rest.length + 2 = ts.length := by
  unfold readKey at h
  split at h
  · simp only [Except.ok.injEq, Prod.mk.injEq] at h
    simp [h.2]
  all_goals simp at h

namespace Shape

variable {α : Type}

def text : Shape String where
  read
    | .text (some s) :: ts => .ok (s, ts)
    | ts => .error (misfit ts)
  read_length := by
    intro ts a rest h
    split at h
    · simp only [Except.ok.injEq, Prod.mk.injEq] at h
      simp [h.2]
    · simp at h

/-- A numeric id: an integer of 32 bits. -/
def legacyId : Shape LegacyId where
  read
    | .integer n :: ts =>
      match LegacyId.ofInt? n with
      | some l => .ok (l, ts)
      | none => .error .mismatch
    | ts => .error (misfit ts)
  read_length := by
    intro ts a rest h
    split at h
    · split at h
      · simp only [Except.ok.injEq, Prod.mk.injEq] at h
        simp [h.2]
      · simp at h
    · simp at h

/-- The elements of an array and its closing bracket, from the first element on. -/
def elements (e : Shape α) (ts : List Token) : Except Fault (List α × List Token) :=
  match _h : e.read ts with
  | .error fault => .error fault
  | .ok (a, .comma :: rest) => do
    let (as, rest) ← e.elements rest
    .ok (a :: as, rest)
  | .ok (a, .closeArray :: rest) => .ok ([a], rest)
  | .ok (_, rest) => .error (unexpected rest)
termination_by ts.length
decreasing_by
  have := e.read_length _h
  simp only [List.length_cons] at this
  omega

theorem elements_length (e : Shape α) {ts rest : List Token} {as : List α}
    (h : e.elements ts = .ok (as, rest)) : rest.length < ts.length := by
  induction hn : ts.length using Nat.strongRecOn generalizing ts rest as with
  | ind n ih =>
    unfold elements at h
    split at h
    · simp at h
    · rename_i a more hr
      have hlt := e.read_length hr
      simp only [List.length_cons] at hlt
      obtain ⟨⟨es, r⟩, he, h⟩ := exists_of_bind_eq_ok h
      cases h
      have := ih more.length (by omega) he rfl
      omega
    · rename_i a more hr
      have hlt := e.read_length hr
      simp only [Except.ok.injEq, Prod.mk.injEq] at h
      rw [← h.2]
      simp only [List.length_cons] at hlt
      omega
    · simp at h

/-- An array whose elements all have one shape. -/
def array (e : Shape α) : Shape (List α) where
  read
    | .openArray :: .closeArray :: ts => .ok ([], ts)
    | .openArray :: ts => e.elements ts
    | ts => .error (misfit ts)
  read_length := by
    intro ts a rest h
    split at h
    · simp only [Except.ok.injEq, Prod.mk.injEq] at h
      simp only [List.length_cons, h.2]
      omega
    · have := e.elements_length h
      simp only [List.length_cons]
      omega
    · simp at h

/-- The members of an object and its closing bracket, from the first member on. -/
def members (e : Shape α) (ts : List Token) : Except Fault (List (String × α) × List Token) :=
  match _hk : readKey ts with
  | .error fault => .error fault
  | .ok (k, ts') =>
    match _h : e.read ts' with
    | .error fault => .error fault
    | .ok (a, .comma :: rest) => do
      let (es, rest) ← e.members rest
      .ok ((k, a) :: es, rest)
    | .ok (a, .closeObject :: rest) => .ok ([(k, a)], rest)
    | .ok (_, rest) => .error (unexpected rest)
termination_by ts.length
decreasing_by
  have hk := readKey_length _hk
  have := e.read_length _h
  simp only [List.length_cons] at this
  omega

theorem members_length (e : Shape α) {ts rest : List Token} {es : List (String × α)}
    (h : e.members ts = .ok (es, rest)) : rest.length < ts.length := by
  induction hn : ts.length using Nat.strongRecOn generalizing ts rest es with
  | ind n ih =>
    unfold members at h
    split at h
    · simp at h
    · rename_i k ts' hk
      have hkl := readKey_length hk
      split at h
      · simp at h
      · rename_i a more hr
        have hlt := e.read_length hr
        simp only [List.length_cons] at hlt
        obtain ⟨⟨es, r⟩, he, h⟩ := exists_of_bind_eq_ok h
        cases h
        have := ih more.length (by omega) he rfl
        omega
      · rename_i a more hr
        have hlt := e.read_length hr
        simp only [Except.ok.injEq, Prod.mk.injEq] at h
        rw [← h.2]
        simp only [List.length_cons] at hlt
        omega
      · simp at h

/-- An object whose members all have one shape: its keys and values in order, keys that
repeat included. -/
def object (e : Shape α) : Shape (List (String × α)) where
  read
    | .openObject :: .closeObject :: ts => .ok ([], ts)
    | .openObject :: ts => e.members ts
    | ts => .error (misfit ts)
  read_length := by
    intro ts a rest h
    split at h
    · simp only [Except.ok.injEq, Prod.mk.injEq] at h
      simp only [List.length_cons, h.2]
      omega
    · have := e.members_length h
      simp only [List.length_cons]
      omega
    · simp at h

/-- What a value of the shape stands for. -/
def map {β : Type} (f : α → β) (e : Shape α) : Shape β where
  read ts := (e.read ts).map fun p => (f p.1, p.2)
  read_length := by
    intro ts b rest h
    cases hr : e.read ts with
    | error fault => rw [hr] at h; simp [Except.map] at h
    | ok p =>
      rw [hr] at h
      simp only [Except.map, Except.ok.injEq, Prod.mk.injEq] at h
      have := e.read_length hr
      rw [h.2] at this
      exact this

/-- The value that a text consists of, with white space around it and nothing else. -/
def readText (e : Shape α) (s : String) : Except Fault α :=
  match e.read (tokens s.toList) with
  | .ok (a, []) => .ok a
  | .ok (_, _ :: _) => .error .malformed
  | .error fault => .error fault

end Shape

end RegistryTables.Json
