import CaptureFilter.Json.Reader
import CaptureFilter.Proofs.Numerals
import CaptureFilter.Proofs.Success

/-!
# Values that can be shown

A value has no text in messages exactly if a whole number of too many digits stands in it. What a
JSON text is read as can always be shown: its reader refuses such a number.
Spec guidance: `SPEC_FULL.md` §7.
-/

namespace CaptureFilter.Json

open Text

namespace Value

/-- A whole number stands in a value: it is the value, or stands in an item or a field. -/
inductive Holds (n : Int) : Value → Prop where
  /-- It is the value. -/
  | here : Holds n (.int n)
  /-- It stands in an item of a list. -/
  | item {v : Value} {items : List Value} (hv : v ∈ items) (h : Holds n v) : Holds n (.list items)
  /-- It stands in a field of a record. -/
  | field {key : String} {v : Value} {fields : List (String × Value)} (hv : (key, v) ∈ fields)
    (h : Holds n v) : Holds n (.record fields)

/-- A number that cannot be written stands in a value. -/
def Unshowable (v : Value) : Prop := ∃ n, Numeral.Unwritable n ∧ v.Holds n

variable {n : Int} {v : Value} {items : List Value} {fields : List (String × Value)}
  {e : Numeral.Error}

/-- A whole number can be shown if it can be written. -/
theorem unshowable_int_iff : (int n).Unshowable ↔ Numeral.Unwritable n := by
  constructor
  · rintro ⟨m, hm, h⟩
    cases h
    exact hm
  · exact fun h ↦ ⟨n, h, .here⟩

/-- A list can be shown if its items can. -/
theorem unshowable_list_iff : (list items).Unshowable ↔ ∃ v ∈ items, v.Unshowable := by
  constructor
  · rintro ⟨n, hn, h⟩
    cases h with
    | item hv h => exact ⟨_, hv, n, hn, h⟩
  · rintro ⟨v, hv, n, hn, h⟩
    exact ⟨n, hn, .item hv h⟩

/-- A record can be shown if its fields can. -/
theorem unshowable_record_iff :
    (record fields).Unshowable ↔ ∃ field ∈ fields, field.2.Unshowable := by
  constructor
  · rintro ⟨n, hn, h⟩
    cases h with
    | field hv h => exact ⟨_, hv, n, hn, h⟩
  · rintro ⟨⟨key, v⟩, hv, n, hn, h⟩
    exact ⟨n, hn, .field hv h⟩

/-- All other values can be shown. -/
theorem not_unshowable_of_forall (hi : ∀ n, v ≠ .int n) (hl : ∀ items, v ≠ .list items)
    (hr : ∀ fields, v ≠ .record fields) : ¬ v.Unshowable := by
  rintro ⟨n, -, h⟩
  cases h with
  | here => exact hi n rfl
  | item => exact hl _ rfl
  | field => exact hr _ rfl

/-! ### Texts in messages -/

/-- Two steps in a row, each of which can only fail for a number that cannot be written. -/
private theorem both_eq_error_iff {α β γ : Type} {x : Except Numeral.Error α}
    {y : Except Numeral.Error β} {P Q : Prop} (f : α → β → γ)
    (hx : ∀ e, x = .error e ↔ P ∧ e = .unwritable) (hy : ∀ e, y = .error e ↔ Q ∧ e = .unwritable) :
    (do return f (← x) (← y)) = .error e ↔ (P ∨ Q) ∧ e = .unwritable := by
  cases x with
  | error first =>
    obtain ⟨hp, rfl⟩ := (hx first).mp rfl
    change Except.error _ = .error e ↔ _
    simp [hp, eq_comm]
  | ok a =>
    have hp : ¬ P := fun hp ↦ nomatch (hx .unwritable).mpr ⟨hp, rfl⟩
    rw [or_iff_right hp, ← hy]
    cases y <;> simp [bind, Except.bind, pure, Except.pure]

mutual

/-- A value has no text exactly if it cannot be shown. -/
theorem display_eq_error_iff (v : Value) (e : Numeral.Error) :
    v.display = .error e ↔ v.Unshowable ∧ e = .unwritable := by
  cases v with
  | int n => rw [display, Numeral.write_eq_error_iff, unshowable_int_iff]
  | list items =>
    rw [unshowable_list_iff, ← displayItems_eq_error_iff items, display, bind_eq_error_iff]
    exact or_iff_left fun ⟨_, _, h⟩ ↦ nomatch h
  | record fields =>
    rw [unshowable_record_iff, ← displayFields_eq_error_iff fields, display, bind_eq_error_iff]
    exact or_iff_left fun ⟨_, _, h⟩ ↦ nomatch h
  | null | bool b | fraction f | nonFinite name | text s =>
    refine iff_of_false ?_ fun h ↦ not_unshowable_of_forall (by simp) (by simp) (by simp) h.1
    simp [display]

/-- The items of a list have no texts exactly if one of them cannot be shown. -/
theorem displayItems_eq_error_iff (items : List Value) (e : Numeral.Error) :
    displayItems items = .error e ↔ (∃ v ∈ items, v.Unshowable) ∧ e = .unwritable := by
  cases items with
  | nil => simp [displayItems]
  | cons v rest =>
    rw [displayItems, List.exists_mem_cons_iff]
    exact both_eq_error_iff List.cons (display_eq_error_iff v) (displayItems_eq_error_iff rest)

/-- The fields of a record have no texts exactly if one of them cannot be shown. -/
theorem displayFields_eq_error_iff (fields : List (String × Value)) (e : Numeral.Error) :
    displayFields fields = .error e ↔ (∃ field ∈ fields, field.2.Unshowable) ∧ e = .unwritable := by
  cases fields with
  | nil => simp [displayFields]
  | cons field rest =>
    obtain ⟨key, v⟩ := field
    rw [displayFields, List.exists_mem_cons_iff]
    exact both_eq_error_iff (fun text ↦ List.cons (quoted key ++ ": " ++ text))
      (display_eq_error_iff v) (displayFields_eq_error_iff rest)

end

/-- A value that can be shown has a text in messages. -/
theorem exists_shown (h : ¬ v.Unshowable) : ∃ shown, Shown.of v = .ok shown := by
  unfold Shown.of
  split
  · exact ⟨_, rfl⟩
  · next e he => exact absurd ((display_eq_error_iff v e).mp he).1 h

/-- A value that cannot be shown has none. -/
theorem shown_of_unshowable (h : v.Unshowable) : Shown.of v = .error .unwritable := by
  have hnone := (display_eq_error_iff v .unwritable).mpr ⟨h, rfl⟩
  unfold Shown.of
  split
  · next htext =>
    rw [hnone] at htext
    cases htext
  · next e he => rw [((display_eq_error_iff v e).mp he).2]

end Value

/-! ### Values that have been read -/

/-- A value that some JSON text is read as. -/
def Value.Sent (v : Value) : Prop := ∃ s, read? s = some v

private theorem not_unshowable_number {negative : Bool} {whole : List Char}
    (hw : isNumber whole = true) (hl : whole.length ≤ Numeral.maxDigits) :
    ¬ (number negative whole none none).Unshowable := by
  have hn := Numeral.not_unwritable_of_read (Numeral.read_of_isNumber hw hl)
  rw [number, Option.getD_none, List.append_nil]
  change ¬ (Value.int _).Unshowable
  rw [Value.unshowable_int_iff]
  cases negative with
  | false => exact hn
  | true => rwa [if_pos rfl, Numeral.Unwritable, Int.natAbs_neg]

private theorem not_unshowable_fraction (f : Fraction) : ¬ (Value.fraction f).Unshowable :=
  Value.not_unshowable_of_forall (by simp) (by simp) (by simp)

private theorem not_unshowable_of_afterWhole {negative : Bool} {whole rest : List Char} {v : Value}
    (hw : isNumber whole = true) (h : afterWhole negative whole rest = some v) :
    ¬ v.Unshowable := by
  have hexponent (part : Option (List Char)) {tail : List Char}
      (h : ((exponent? tail).map fun e ↦ number negative whole part (some e)) = some v) :
      ¬ v.Unshowable := by
    obtain ⟨e, -, rfl⟩ := Option.map_eq_some_iff.mp h
    rw [number, Option.isNone_some, Bool.and_false, if_neg Bool.false_ne_true]
    exact not_unshowable_fraction _
  unfold afterWhole at h
  split at h
  · split at h
    · cases h
    · next hl =>
      cases h
      exact not_unshowable_number hw (Nat.not_lt.mp hl)
  · dsimp only at h
    split at h
    · cases h
    · cases h
      exact not_unshowable_fraction _
    · split at h
      · exact hexponent _ h
      · cases h
  · split at h
    · exact hexponent none h
    · cases h

private theorem not_unshowable_of_unsigned? {negative : Bool} {s : List Char} {v : Value}
    (h : unsigned? negative s = some v) : ¬ v.Unshowable := by
  unfold unsigned? at h
  split at h
  · exact not_unshowable_of_afterWhole (by decide) h
  · dsimp only at h
    split at h
    · cases h
    · next hne =>
      refine not_unshowable_of_afterWhole (isNumber_iff.mpr ⟨?_, fun c hc ↦ ?_⟩) h
      · exact mt List.isEmpty_iff.mpr hne
      · exact List.mem_takeWhile_imp hc

private theorem not_unshowable_of_bareValue? {s : List Char} {v : Value}
    (h : bareValue? s = some v) : ¬ v.Unshowable := by
  unfold bareValue? at h
  split at h
  case h_7 =>
    split at h
    · exact not_unshowable_of_unsigned? h
    · exact not_unshowable_of_unsigned? h
  all_goals
    cases h
    exact Value.not_unshowable_of_forall (by simp) (by simp) (by simp)

/-- All values of a list or record begun can be shown. -/
def Frame.Showable : Frame → Prop
  | .list items => ∀ v ∈ items, ¬ v.Unshowable
  | .record fields _ => ∀ field ∈ fields, ¬ field.2.Unshowable

/-- All values read so far can be shown. -/
def Due.Showable : Due → Prop
  | .key fields | .colon fields _ => ∀ field ∈ fields, ¬ field.2.Unshowable
  | .next v => ¬ v.Unshowable
  | .value | .item | .firstKey => True

/-- All values read so far can be shown. -/
def Position.Showable (position : Position) : Prop :=
  (∀ frame ∈ position.1, frame.Showable) ∧ position.2.Showable

private theorem assign_showable {key : String} {v : Value} {fields : List (String × Value)}
    (hv : ¬ v.Unshowable) (hf : ∀ field ∈ fields, ¬ field.2.Unshowable) :
    ∀ field ∈ Named.assign key v fields, ¬ field.2.Unshowable := by
  induction fields with
  | nil => simpa [Named.assign] using hv
  | cons first rest ih =>
    obtain ⟨hfirst, hrest⟩ := List.forall_mem_cons.mp hf
    rw [Named.assign]
    split
    · exact List.forall_mem_cons.mpr ⟨hv, hrest⟩
    · exact List.forall_mem_cons.mpr ⟨hfirst, ih hrest⟩

/-- What ends with a value that can be shown can be shown. -/
private theorem Frame.close_showable {frame : Frame} {v : Value} (hf : frame.Showable)
    (hv : ¬ v.Unshowable) : ¬ (frame.close v).Unshowable := by
  cases frame with
  | list items =>
    rw [close, Value.unshowable_list_iff]
    rintro ⟨w, hw, hno⟩
    rcases List.mem_cons.mp (List.mem_reverse.mp hw) with rfl | hw
    · exact hv hno
    · exact hf w hw hno
  | record fields key =>
    rw [close, Value.unshowable_record_iff]
    rintro ⟨field, hfield, hno⟩
    exact assign_showable hv hf field hfield hno

private theorem Position.showable_stepValue {frames : List Frame} {next : Position} {token : Token}
    (hframes : ∀ frame ∈ frames, frame.Showable) (h : step (frames, .value) token = some next) :
    next.Showable := by
  cases token with
  | text s =>
    cases h
    exact ⟨hframes, Value.not_unshowable_of_forall (by simp) (by simp) (by simp)⟩
  | bare s =>
    obtain ⟨v, hv, rfl⟩ := Option.map_eq_some_iff.mp h
    exact ⟨hframes, not_unshowable_of_bareValue? hv⟩
  | openList =>
    cases h
    exact ⟨List.forall_mem_cons.mpr ⟨by simp [Frame.Showable], hframes⟩, True.intro⟩
  | openRecord =>
    cases h
    exact ⟨hframes, True.intro⟩
  | _ => cases h

/-- Behind a value stands a comma, or the end of the innermost list or record. -/
private theorem Position.showable_stepNext {frames : List Frame} {v : Value} {next : Position}
    {token : Token} (hframes : ∀ frame ∈ frames, frame.Showable) (hv : ¬ v.Unshowable)
    (h : step (frames, .next v) token = some next) : next.Showable := by
  cases frames with
  | nil => cases h
  | cons frame frames =>
    obtain ⟨hframe, hrest⟩ := List.forall_mem_cons.mp hframes
    have hclose := Frame.close_showable hframe hv
    cases frame with
    | list items =>
      cases token with
      | comma =>
        cases h
        have hitems : Frame.Showable (.list (v :: items)) := List.forall_mem_cons.mpr ⟨hv, hframe⟩
        exact ⟨List.forall_mem_cons.mpr ⟨hitems, hrest⟩, True.intro⟩
      | closeList =>
        cases h
        exact ⟨hrest, hclose⟩
      | _ => cases h
    | record fields key =>
      cases token with
      | comma =>
        cases h
        exact ⟨hrest, assign_showable hv hframe⟩
      | closeRecord =>
        cases h
        exact ⟨hrest, hclose⟩
      | _ => cases h

/-- A token keeps all values read so far such that they can be shown. -/
theorem Position.showable_step {position next : Position} {token : Token}
    (hp : position.Showable) (h : position.step token = some next) : next.Showable := by
  obtain ⟨frames, due⟩ := position
  obtain ⟨hframes, hdue⟩ := hp
  cases due with
  | value | item => exact showable_stepValue hframes h
  | firstKey =>
    cases token with
    | text s =>
      cases h
      exact ⟨hframes, by simp [Due.Showable]⟩
    | closeRecord =>
      cases h
      exact ⟨hframes, by simp [Due.Showable, Value.unshowable_record_iff]⟩
    | _ => cases h
  | key fields =>
    cases token with
    | text s =>
      cases h
      exact ⟨hframes, hdue⟩
    | _ => cases h
  | colon fields key =>
    cases token with
    | colon =>
      cases h
      exact ⟨List.forall_mem_cons.mpr ⟨hdue, hframes⟩, True.intro⟩
    | _ => cases h
  | next v => exact showable_stepNext hframes hdue h

private theorem Position.showable_stepEmpty {position next : Position} {token : Token}
    (hp : position.Showable) (h : position.stepEmpty token = some next) : next.Showable := by
  unfold stepEmpty at h
  split at h
  · cases h
    refine ⟨(List.forall_mem_cons.mp hp.1).2, ?_⟩
    simp [Due.Showable, Value.unshowable_list_iff]
  · exact showable_step hp h

/-- Tokens keep all values read so far such that they can be shown. -/
theorem Position.showable_run {position last : Position} {tokens : List Token}
    (hp : position.Showable) (h : position.run tokens = some last) : last.Showable := by
  induction tokens generalizing position with
  | nil =>
    cases h
    exact hp
  | cons token rest ih =>
    obtain ⟨next, hnext, hrest⟩ := Option.bind_eq_some_iff.mp h
    exact ih (showable_stepEmpty hp hnext) hrest

/-- What a JSON text is read as can be shown. -/
theorem Value.Sent.not_unshowable {v : Value} (h : v.Sent) : ¬ v.Unshowable := by
  obtain ⟨s, hs⟩ := h
  obtain ⟨all, -, hs⟩ := Option.bind_eq_some_iff.mp hs
  obtain ⟨last, hlast, hs⟩ := Option.bind_eq_some_iff.mp hs
  have hstart : Position.Showable ([], .value) := ⟨by simp, True.intro⟩
  have hshown := Position.showable_run hstart hlast
  split at hs
  · cases hs
    exact hshown.2
  · cases hs

end CaptureFilter.Json
