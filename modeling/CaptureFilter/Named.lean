/-!
# Named values in order

A list of named values in which a name that is set again keeps its place.
Spec guidance: `SPEC_FULL.md` §6 (`ProtocolTable`) and §C (request and response bodies).
-/

namespace CaptureFilter.Named

variable {α : Type}

/-- Sets a named value: in its place if the name is there, otherwise at the end. -/
def assign (name : String) (value : α) : List (String × α) → List (String × α)
  | [] => [(name, value)]
  | (n, old) :: rest =>
    if n = name then (n, value) :: rest else (n, old) :: assign name value rest

/-- The named values that a list of settings leaves. -/
def ofSettings (settings : List (String × α)) : List (String × α) :=
  settings.foldl (fun named (name, value) ↦ assign name value named) []

/-- A name that has been set has the value it was set to. -/
theorem lookup_assign_self (name : String) (value : α) (named : List (String × α)) :
    (assign name value named).lookup name = some value := by
  induction named with
  | nil => simp [assign]
  | cons entry rest ih =>
    obtain ⟨n, old⟩ := entry
    simp only [assign]
    split
    · next h => simp [h]
    · next h => simp [List.lookup_cons, ih, beq_false_of_ne (Ne.symm h)]

/-- Setting a name leaves the others as they are. -/
theorem lookup_assign_of_ne {name other : String} (h : other ≠ name) (value : α)
    (named : List (String × α)) :
    (assign name value named).lookup other = named.lookup other := by
  induction named with
  | nil => simp [assign, List.lookup_cons, beq_false_of_ne h]
  | cons entry rest ih =>
    obtain ⟨n, old⟩ := entry
    simp only [assign]
    split
    · next hn => simp [List.lookup_cons, hn, beq_false_of_ne h]
    · simp [List.lookup_cons, ih]

end CaptureFilter.Named
