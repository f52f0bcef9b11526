/-!
# Control sequences

Sequences that steer a terminal: an escape character and a bracket, parameters, intermediate characters
and a final one. `Text.plain` leaves them out of a text; what only starts like one stays.
-/

namespace CatalogSchema.Text

def isParameter (c : Char) : Bool := '0' ≤ c && c ≤ '?'

def isIntermediate (c : Char) : Bool := ' ' ≤ c && c ≤ '/'

def isFinal (c : Char) : Bool := '@' ≤ c && c ≤ '~'

/-- What follows the control sequence that a text starts with. -/
def afterControl? : List Char → Option (List Char)
  | '\x1b' :: '[' :: cs =>
    match (cs.dropWhile isParameter).dropWhile isIntermediate with
    | c :: rest => if isFinal c then some rest else none
    | [] => none
  | _ => none

theorem length_afterControl? {cs rest : List Char} (h : afterControl? cs = some rest) :
    rest.length < cs.length := by
  unfold afterControl? at h
  split at h
  · rename_i cs
    have hp : ((cs.dropWhile isParameter).dropWhile isIntermediate).length ≤ cs.length :=
      Nat.le_trans (List.dropWhile_sublist _).length_le (List.dropWhile_sublist _).length_le
    split at h
    · rename_i c rest' hd
      rw [hd] at hp
      split at h
      · cases h
        simp only [List.length_cons] at hp ⊢
        omega
      · cases h
    · cases h
  · cases h

def dropControls : List Char → List Char
  | [] => []
  | c :: cs =>
    match _h : afterControl? (c :: cs) with
    | some rest => dropControls rest
    | none => c :: dropControls cs
termination_by cs => cs.length
decreasing_by
  · exact length_afterControl? ‹_›
  · simp

/-- A text without control sequences. -/
def plain (s : String) : String := String.ofList (dropControls s.toList)

end CatalogSchema.Text
