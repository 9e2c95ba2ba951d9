import RegistryTables.Json.Token

/-
  Passing over a value that nobody wants.

  The value must be well formed, to any depth, and that is all: its numbers may be too
  large and its strings no text. The brackets that are still open are kept in a list,
  innermost first.
-/
namespace RegistryTables.Json

inductive Bracket where
  | array
  | object
  deriving DecidableEq, Repr

mutual

/-- Passes over a value and then over all that is left of the open brackets. -/
def skipValue (pending : List Bracket) : List Token → Except Fault (List Token)
  | [] => .error .truncated
  | .text _ :: ts | .integer _ :: ts | .decimal _ :: ts | .literal :: ts => skipRest pending ts
  | .openArray :: .closeArray :: ts => skipRest pending ts
  | .openArray :: ts => skipValue (.array :: pending) ts
  | .openObject :: .closeObject :: ts => skipRest pending ts
  | .openObject :: ts => skipMember pending ts
  | .brokenText b :: _ | .broken b :: _ => .error b.skip
  | .closeArray :: _ | .closeObject :: _ | .comma :: _ | .colon :: _ => .error .malformed

/-- Passes over a key and its value in an object, and then over all that is left of the
object and of the open brackets around it. -/
def skipMember (pending : List Bracket) : List Token → Except Fault (List Token)
  | [] => .error .truncated
  | .text _ :: .colon :: ts => skipValue (.object :: pending) ts
  | [.text _] => .error .truncated
  | .text _ :: _ :: _ => .error .malformed
  | .brokenText b :: _ => .error b.skip
  | _ :: _ => .error .malformed

/-- Passes over all that is left of the open brackets, behind a value. -/
def skipRest : List Bracket → List Token → Except Fault (List Token)
  | [], ts => .ok ts
  | _ :: _, [] => .error .truncated
  | .array :: pending, .comma :: ts => skipValue (.array :: pending) ts
  | .array :: pending, .closeArray :: ts => skipRest pending ts
  | .object :: pending, .comma :: ts => skipMember pending ts
  | .object :: pending, .closeObject :: ts => skipRest pending ts
  | _ :: _, _ :: _ => .error .malformed

end

def skip (ts : List Token) : Except Fault (List Token) := skipValue [] ts

/-! ## A value that was passed over is not empty -/

/-- Passing over something uses up tokens, unless there is nothing to pass over. -/
theorem skip_lengths (n : Nat) :
    (∀ {pending : List Bracket} {ts rest : List Token}, ts.length ≤ n →
      skipValue pending ts = .ok rest → rest.length < ts.length) ∧
    (∀ {pending : List Bracket} {ts rest : List Token}, ts.length ≤ n →
      skipMember pending ts = .ok rest → rest.length < ts.length) ∧
    (∀ {pending : List Bracket} {ts rest : List Token}, ts.length ≤ n →
      skipRest pending ts = .ok rest → rest.length ≤ ts.length) := by
  induction n with
  | zero =>
    refine ⟨?_, ?_, ?_⟩
    · intro pending ts rest hn h
      rw [List.length_eq_zero_iff.1 (Nat.le_zero.1 hn)] at h
      simp [skipValue] at h
    · intro pending ts rest hn h
      rw [List.length_eq_zero_iff.1 (Nat.le_zero.1 hn)] at h
      simp [skipMember] at h
    · intro pending ts rest hn h
      have hts := List.length_eq_zero_iff.1 (Nat.le_zero.1 hn)
      subst hts
      cases pending with
      | nil => simp_all [skipRest]
      | cons b bs => simp [skipRest] at h
  | succ n ih =>
    obtain ⟨value, member, others⟩ := ih
    -- The value is over, and what is open around it goes on behind `k + 1` tokens.
    have after {pending : List Bracket} {ts rest : List Token} (k : Nat)
        (hn : ts.length + k + 1 ≤ n + 1) (h : skipRest pending ts = .ok rest) :
        rest.length < ts.length + k + 1 := by
      have := others (by omega) h
      omega
    refine ⟨?_, ?_, ?_⟩
    · intro pending ts rest hn h
      unfold skipValue at h
      split at h
      · simp at h
      · exact after 0 hn h
      · exact after 0 hn h
      · exact after 0 hn h
      · exact after 0 hn h
      · exact after 1 hn h
      · exact Nat.lt_succ_of_lt (value (Nat.le_of_succ_le_succ hn) h)
      · exact after 1 hn h
      · exact Nat.lt_succ_of_lt (member (Nat.le_of_succ_le_succ hn) h)
      all_goals simp at h
    · intro pending ts rest hn h
      unfold skipMember at h
      split at h
      · simp at h
      · have := value (Nat.le_of_succ_le (Nat.le_of_succ_le_succ hn)) h
        simp only [List.length_cons]
        omega
      all_goals simp at h
    · intro pending ts rest hn h
      unfold skipRest at h
      split at h
      · simp only [Except.ok.injEq] at h
        exact h ▸ Nat.le_refl _
      · simp at h
      · exact Nat.le_succ_of_le (Nat.le_of_lt (value (Nat.le_of_succ_le_succ hn) h))
      · exact Nat.le_succ_of_le (others (Nat.le_of_succ_le_succ hn) h)
      · exact Nat.le_succ_of_le (Nat.le_of_lt (member (Nat.le_of_succ_le_succ hn) h))
      · exact Nat.le_succ_of_le (others (Nat.le_of_succ_le_succ hn) h)
      · simp at h

theorem skip_length {ts rest : List Token} (h : skip ts = .ok rest) : rest.length < ts.length :=
  (skip_lengths ts.length).1 (Nat.le_refl _) h

end RegistryTables.Json
