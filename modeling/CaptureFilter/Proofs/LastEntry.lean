import CaptureFilter.Proofs.Characters
import CaptureFilter.Proofs.LowerCase
import CaptureFilter.Proofs.Numerals
import CaptureFilter.Proofs.Success
import CaptureFilter.Protocol.Source
import Mathlib.Data.Finset.Card
import Mathlib.Data.List.Induction

/-!
# The last entry of a name

The table of a protocol database gives a name the number of the last line that enters it, be it as
the line's first field or as its third, and knows no other names. Lines that enter nothing can be
left out, and building the table a second time from its own entries changes nothing.
Spec guidance: `SPEC_FULL.md` §6 (`ProtocolTable`, `from_lines`, `lookup`).
-/

/-! ### Named values -/

namespace CaptureFilter.Named

variable {α : Type}

/-- The names that are set are those with a value. -/
theorem mem_names_iff {named : List (String × α)} {name : String} :
    name ∈ named.map Prod.fst ↔ named.lookup name ≠ none := by
  rw [Ne, List.lookup_eq_none_iff, List.mem_map]
  constructor
  · rintro ⟨entry, hentry, rfl⟩ hno
    simpa using hno entry hentry
  · intro h
    push Not at h
    obtain ⟨entry, hentry, heq⟩ := h
    exact ⟨entry, hentry, Eq.symm (by simpa using heq)⟩

/-- Setting a name adds it at the end, unless it is there. -/
theorem keys_assign (name : String) (value : α) (named : List (String × α)) :
    (assign name value named).map Prod.fst =
      if name ∈ named.map Prod.fst then named.map Prod.fst
      else named.map Prod.fst ++ [name] := by
  induction named with
  | nil => rfl
  | cons entry rest ih =>
    obtain ⟨n, old⟩ := entry
    rw [assign]
    by_cases h : n = name
    · simp [h]
    · have hne : name ≠ n := Ne.symm h
      simp only [h, if_false, List.map_cons, ih, List.mem_cons, hne, false_or]
      split <;> rfl

private theorem ofSettings_append (settings : List (String × α)) (name : String) (value : α) :
    ofSettings (settings ++ [(name, value)]) = assign name value (ofSettings settings) := by
  rw [ofSettings, List.foldl_append]
  rfl

/-- Each name is set once in what settings leave. -/
theorem nodup_ofSettings (settings : List (String × α)) :
    ((ofSettings settings).map Prod.fst).Nodup := by
  induction settings using List.reverseRecOn with
  | nil => exact List.nodup_nil
  | append_singleton settings entry ih =>
    rw [ofSettings_append, keys_assign]
    split
    · exact ih
    · next h => exact ih.append (List.nodup_singleton _) (by simpa using h)

/-- A name has the value that it was set to last. -/
theorem lookup_ofSettings (settings : List (String × α)) (name : String) :
    (ofSettings settings).lookup name = settings.reverse.lookup name := by
  induction settings using List.reverseRecOn with
  | nil => rfl
  | append_singleton settings entry ih =>
    obtain ⟨n, value⟩ := entry
    rw [ofSettings_append, List.reverse_append, List.reverse_singleton, List.singleton_append,
      List.lookup_cons]
    by_cases h : name = n
    · simp [h, lookup_assign_self]
    · rw [lookup_assign_of_ne h, ih, beq_false_of_ne h]

/-- Where each name is set once, the order does not matter. -/
theorem lookup_reverse {named : List (String × α)} (h : (named.map Prod.fst).Nodup)
    (name : String) : named.reverse.lookup name = named.lookup name := by
  induction named with
  | nil => rfl
  | cons entry rest ih =>
    obtain ⟨n, value⟩ := entry
    rw [List.map_cons, List.nodup_cons] at h
    rw [List.reverse_cons, List.lookup_append, ih h.2, List.lookup_cons]
    by_cases hn : name = n
    · subst hn
      have hno : rest.lookup name = none := not_not.mp (mt mem_names_iff.mpr h.1)
      simp [hno]
    · simp [List.lookup_cons, beq_false_of_ne hn]

end CaptureFilter.Named

namespace CaptureFilter.Protocol

open Text

/-! ### What a line says -/

namespace Line

/-- The fields of a line: the words in front of its first number sign. -/
def fields (line : List Char) : List (List Char) := wordsOf (cut '#' line).1

/-- Whether a line contributes to the table: it has a second field, which is made of digits. -/
def contributes (line : List Char) : Bool := (fields line)[1]?.any (·.all Numeral.isAnyDigit)

/-- The names in a line, in lower case: its first field and its third. -/
def names (line : List Char) : List String :=
  ((fields line)[0]?.toList ++ (fields line)[2]?.toList).map (lower ∘ String.ofList)

/-- Whether a line contributes a name in lower case. -/
def gives (key : String) (line : List Char) : Bool :=
  contributes line && (names line).contains key

/-- The number in a line: the value of its second field. -/
def number? (line : List Char) : Option Int :=
  ((fields line)[1]?.bind fun digits ↦ (Numeral.read digits).toOption).map Int.ofNat

variable {line : List Char} {key : String}

/-- A line contributes a name exactly if it contributes and the name is in it. -/
theorem gives_iff : gives key line = true ↔ contributes line = true ∧ key ∈ names line := by
  rw [gives, Bool.and_eq_true, List.contains_iff_mem]

/-- A name in a line is a word of the line in lower case. -/
theorem exists_word_of_mem_names (h : key ∈ names line) :
    ∃ word ∈ words (String.ofList (cut '#' line).1), lower word = key := by
  obtain ⟨field, hfield, hlower⟩ := List.mem_map.mp h
  have hf : field ∈ fields line := by
    rcases List.mem_append.mp hfield with h | h <;>
      exact List.mem_of_getElem? (Option.mem_toList.mp h)
  refine ⟨String.ofList field, ?_, hlower⟩
  rw [words, String.toList_ofList]
  exact List.mem_map_of_mem hf

/-- The number in a line can be written: it has been read. -/
theorem not_unwritable_of_number? {n : Int} (h : number? line = some n) :
    ¬ Numeral.Unwritable n := by
  obtain ⟨m, hm, rfl⟩ := Option.map_eq_some_iff.mp h
  obtain ⟨digits, -, hread⟩ := Option.bind_eq_some_iff.mp hm
  apply Numeral.not_unwritable_of_read (s := digits)
  cases hd : Numeral.read digits with
  | error e => simp [hd, Except.toOption] at hread
  | ok n => simpa [hd, Except.toOption] using hread

/-- No line contributes the empty name. -/
theorem gives_empty (line : List Char) : gives "" line = false := by
  rw [Bool.eq_false_iff, Ne, gives_iff]
  rintro ⟨-, hmem⟩
  obtain ⟨word, hword, hlower⟩ := exists_word_of_mem_names hmem
  exact (word_spec hword).1 (lower_eq_empty_iff.mp hlower)

/-- The entry of a line holds what the line says. -/
theorem of_ofLine? {entry : Entry} (h : Entry.ofLine? line = some entry) :
    contributes line = true ∧
      names line = lower entry.name :: (entry.alias?.map lower).toList ∧
      number? line = (Numeral.read entry.digits).toOption.map Int.ofNat := by
  unfold Entry.ofLine? at h
  split at h
  · next name digits rest hfields =>
    split at h
    · next hdigits =>
      cases h
      have hf : fields line = name :: digits :: rest := hfields
      refine ⟨by simpa [contributes, hf] using hdigits, ?_, by simp [number?, hf]⟩
      cases rest <;> simp [names, hf]
    · cases h
  · cases h

/-- Exactly the lines that contribute make an entry. -/
theorem isSome_ofLine? (line : List Char) : (Entry.ofLine? line).isSome = contributes line := by
  unfold Entry.ofLine?
  split
  · next name digits rest hfields =>
    have hf : fields line = name :: digits :: rest := hfields
    split
    · next hdigits => simpa [contributes, hf] using hdigits
    · next hdigits => simpa [contributes, hf] using hdigits
  · next hfew =>
    cases hf : fields line with
    | nil => simp [contributes, hf]
    | cons name rest =>
      cases rest with
      | nil => simp [contributes, hf]
      | cons digits rest => exact absurd hf (hfew name digits rest)

end Line

/-! ### One line after the other -/

/-- A table after a line has been entered. -/
def Table.enterLine (t : Table) (line : List Char) : Except Numeral.Error Table :=
  match Entry.ofLine? line with
  | some entry => t.enter entry
  | none => .ok t

variable {t u : Table} {line : List Char} {lines : List (List Char)}

/-- The table of lines is built line by line, from the empty one. -/
theorem Table.ofLines_eq_foldlM (lines : List (List Char)) :
    Table.ofLines lines = lines.foldlM Table.enterLine .empty := by
  rw [Table.ofLines, List.foldlM_filterMap]
  congr
  funext t line
  rw [Table.enterLine]
  cases Entry.ofLine? line <;> rfl

/-- A line that contributes puts its names with its number in front of the entries, and any other
leaves the table as it is. -/
theorem Table.enterLine_cases (h : t.enterLine line = .ok u) :
    (Line.contributes line = false ∧ u = t) ∨
      (Line.contributes line = true ∧ ∃ n, Line.number? line = some n ∧
        u.entries = (Line.names line).reverse.map (·, n) ++ t.entries) := by
  rw [Table.enterLine] at h
  cases hline : Entry.ofLine? line with
  | none =>
    rw [hline] at h
    cases h
    exact .inl ⟨by rw [← Line.isSome_ofLine?, hline]; rfl, rfl⟩
  | some entry =>
    rw [hline] at h
    obtain ⟨hcontributes, hnames, hnumber⟩ := Line.of_ofLine? hline
    obtain ⟨n, hn, hu⟩ := bind_eq_ok_iff.mp h
    refine .inr ⟨hcontributes, n, by rw [hnumber, hn]; rfl, ?_⟩
    cases hu
    rw [hnames]
    cases entry.alias? <;> rfl

/-- A table holds what lines say: each line that contributes has a number, and a name has that of
the last line to give it one. -/
structure Records (lines : List (List Char)) (t : Table) : Prop where
  /-- A line that contributes has a number. -/
  number : ∀ line ∈ lines, Line.contributes line = true → ∃ n, Line.number? line = some n
  /-- A name has the number of the last line that contributes it. -/
  last : ∀ key, t.entries.lookup key = (lines.filter (Line.gives key)).getLast?.bind Line.number?

private theorem lookup_map_append (names : List String) (n : Int) (rest : List (String × Int))
    (key : String) :
    (names.map (·, n) ++ rest).lookup key = if key ∈ names then some n else rest.lookup key := by
  induction names with
  | nil => simp
  | cons name names ih =>
    rw [List.map_cons, List.cons_append, List.lookup_cons, ih]
    by_cases h : key = name
    · simp [h]
    · simp [h, beq_false_of_ne h]

/-- One more line keeps the table in step with the lines. -/
theorem Records.step (hr : Records lines t) (h : t.enterLine line = .ok u) :
    Records (lines ++ [line]) u := by
  have hcases := Table.enterLine_cases h
  constructor
  · intro l hl hc
    rcases List.mem_append.mp hl with hl | hl
    · exact hr.number l hl hc
    · rw [List.mem_singleton.mp hl] at hc ⊢
      rcases hcases with ⟨hno, -⟩ | ⟨-, n, hn, -⟩
      · exact absurd hc (by simp [hno])
      · exact ⟨n, hn⟩
  · intro key
    rw [List.filter_append, List.filter_singleton]
    rcases hcases with ⟨hno, rfl⟩ | ⟨hc, n, hn, hu⟩
    · have hgives : Line.gives key line = false := by rw [Line.gives, hno, Bool.false_and]
      simp [hgives, hr.last]
    · have hgives : Line.gives key line = true ↔ key ∈ Line.names line := by
        rw [Line.gives_iff, and_iff_right hc]
      rw [hu, lookup_map_append]
      by_cases hkey : key ∈ Line.names line
      · simp [hkey, hgives.mpr hkey, hn]
      · simp [hkey, mt hgives.mp hkey, hr.last]

/-- The table of lines holds what they say. -/
theorem records_of_ofLines (h : Table.ofLines lines = .ok t) : Records lines t := by
  rw [Table.ofLines_eq_foldlM] at h
  -- the lines entered so far are a beginning of the list, so the induction is from its end
  induction lines using List.reverseRecOn generalizing t with
  | nil =>
    cases h
    exact ⟨fun _ hl ↦ absurd hl List.not_mem_nil, fun _ ↦ rfl⟩
  | append_singleton lines line ih =>
    rw [List.foldlM_append] at h
    obtain ⟨before, hbefore, hline⟩ := bind_eq_ok_iff.mp h
    rw [List.foldlM_cons] at hline
    obtain ⟨after, hafter, hrest⟩ := bind_eq_ok_iff.mp hline
    cases hrest
    exact (ih hbefore).step hafter

/-! ### The names of a table -/

private theorem nodup_eraseDups (names : List String) : names.eraseDups.Nodup := by
  cases names with
  | nil => exact List.nodup_nil
  | cons name rest =>
    rw [List.eraseDups_cons, List.nodup_cons]
    exact ⟨by simp [List.mem_eraseDups], nodup_eraseDups _⟩
termination_by names.length
decreasing_by
  exact Nat.lt_succ_of_le (List.length_filter_le _ rest)

/-- The size of a table is the number of different names in its entries. -/
theorem Table.size_eq_card (t : Table) : t.size = (t.entries.map Prod.fst).toFinset.card := by
  rw [Table.size, ← List.toFinset_card_of_nodup (nodup_eraseDups _)]
  congr 1
  ext name
  rw [List.mem_toFinset, List.mem_toFinset, List.mem_eraseDups]

/-- Tables with the same look-ups have the same size. -/
theorem Table.size_congr (h : ∀ key, t.entries.lookup key = u.entries.lookup key) :
    t.size = u.size := by
  rw [Table.size_eq_card, Table.size_eq_card]
  congr 1
  ext key
  rw [List.mem_toFinset, List.mem_toFinset, Named.mem_names_iff, Named.mem_names_iff, h]

namespace Records

/-- The names of a table are those that lines contribute. -/
theorem mem_names_iff (hr : Records lines t) {key : String} :
    key ∈ t.entries.map Prod.fst ↔ ∃ line ∈ lines, Line.gives key line = true := by
  rw [Named.mem_names_iff, hr.last]
  cases hlast : (lines.filter (Line.gives key)).getLast? with
  | none =>
    have hnil := List.filter_eq_nil_iff.mp (List.getLast?_eq_none_iff.mp hlast)
    simpa using hnil
  | some line =>
    obtain ⟨hline, hgives⟩ := List.mem_filter.mp (List.mem_of_getLast? hlast)
    obtain ⟨n, hn⟩ := hr.number line hline (Line.gives_iff.mp hgives).1
    exact ⟨fun _ ↦ ⟨line, hline, hgives⟩, fun _ ↦ by simp [hn]⟩

/-- The names of a table are in lower case. -/
theorem lower_name (hr : Records lines t) {key : String} (h : key ∈ t.entries.map Prod.fst) :
    lower key = key := by
  obtain ⟨line, -, hgives⟩ := hr.mem_names_iff.mp h
  obtain ⟨field, -, rfl⟩ := List.mem_map.mp (Line.gives_iff.mp hgives).2
  exact lower_lower _

/-- The size of a table is the number of different names that lines contribute. -/
theorem size_eq (hr : Records lines t) :
    t.size = ((lines.filter Line.contributes).flatMap Line.names).toFinset.card := by
  rw [Table.size_eq_card]
  congr 1
  ext key
  rw [List.mem_toFinset, List.mem_toFinset, hr.mem_names_iff, List.mem_flatMap]
  simp [Line.gives_iff, List.mem_filter, and_assoc]

/-- A name is looked up as that of the last line that contributes it. -/
theorem lookup_eq (hr : Records lines t) (query : String) :
    t.lookup query = (lines.filter (Line.gives (lower query))).getLast?.bind Line.number? := by
  rw [Table.lookup, ← hr.last]
  split
  · next h =>
    rw [String.isEmpty_iff.mp h, lower_eq_empty_iff.mpr rfl, hr.last,
      List.filter_eq_nil_iff.mpr fun line _ ↦ by simp [Line.gives_empty]]
    rfl
  · rfl

/-- The number of a name can be written. -/
theorem not_unwritable_of_lookup (hr : Records lines t) {name : String} {n : Int}
    (h : t.lookup name = some n) : ¬ Numeral.Unwritable n := by
  rw [hr.lookup_eq] at h
  obtain ⟨line, -, hn⟩ := Option.bind_eq_some_iff.mp h
  exact Line.not_unwritable_of_number? hn

end Records

/-- The numbers in the table of a file can be written. -/
theorem not_unwritable_of_ofFile {file : Option (List UInt8)} (h : Source.ofFile file = .ok t)
    {name : String} {n : Int} (hn : t.lookup name = some n) : ¬ Numeral.Unwritable n := by
  cases file with
  | none =>
    cases h
    rw [Table.lookup_empty] at hn
    cases hn
  | some bytes => exact (records_of_ofLines h).not_unwritable_of_lookup hn

/-! ### Building a table again -/

private theorem entries_foldl_insert (pairs : List (String × Int)) (t : Table) :
    (pairs.foldl (fun t (name, number) ↦ t.insert name number) t).entries =
      (pairs.map fun (name, number) ↦ (lower name, number)).reverse ++ t.entries := by
  induction pairs generalizing t with
  | nil => rfl
  | cons pair pairs ih =>
    rw [List.foldl_cons, ih]
    simp [Table.insert]

/-- A table in lower case that is built again from its own entries has the same look-ups. -/
theorem Table.lookup_entries_ofPairs
    (h : ∀ key ∈ t.entries.map Prod.fst, lower key = key) (key : String) :
    (Table.ofPairs t.entries.reverse).entries.lookup key = t.entries.lookup key := by
  have hlower : (Named.ofSettings t.entries.reverse).map
      (fun (name, number) ↦ (lower name, number)) = Named.ofSettings t.entries.reverse := by
    refine (List.map_congr_left fun (name, number) hpair ↦ ?_).trans (List.map_id _)
    have hname : name ∈ t.entries.map Prod.fst := by
      have hset := Named.mem_names_iff.mp (List.mem_map_of_mem hpair)
      rw [Named.lookup_ofSettings, List.reverse_reverse] at hset
      exact Named.mem_names_iff.mpr hset
    exact congrArg (·, number) (h name hname)
  rw [Table.ofPairs, entries_foldl_insert, hlower, Table.empty, List.append_nil,
    Named.lookup_reverse (Named.nodup_ofSettings _), Named.lookup_ofSettings, List.reverse_reverse]

/-- Lines that do not contribute can be left out. -/
theorem Table.ofLines_filter_contributes (lines : List (List Char)) :
    Table.ofLines (lines.filter Line.contributes) = Table.ofLines lines := by
  rw [Table.ofLines, Table.ofLines, List.filterMap_filter]
  congr 2
  funext line
  rw [← Line.isSome_ofLine?]
  cases Entry.ofLine? line <;> rfl

/-- In the table of lines a name has the number of the last line that contributes it, and no number
if none does. The size of the table is the number of different names that lines contribute. Neither
changes if the other lines are left out, nor if the table is built again from its entries. -/
theorem last_line_wins (h : Table.ofLines lines = .ok t) :
    (∀ line, (Entry.ofLine? line).isSome = Line.contributes line) ∧
      (∀ line ∈ lines, Line.contributes line = true → ∃ n, Line.number? line = some n) ∧
      (∀ query, t.lookup query =
        (lines.filter (Line.gives (lower query))).getLast?.bind Line.number?) ∧
      t.size = ((lines.filter Line.contributes).flatMap Line.names).toFinset.card ∧
      Table.ofLines (lines.filter Line.contributes) = .ok t ∧
      (Table.ofPairs t.entries.reverse).size = t.size ∧
      ∀ query, (Table.ofPairs t.entries.reverse).lookup query = t.lookup query := by
  have hr := records_of_ofLines h
  have hagain := Table.lookup_entries_ofPairs fun key ↦ hr.lower_name
  refine ⟨Line.isSome_ofLine?, hr.number, hr.lookup_eq, hr.size_eq,
    (Table.ofLines_filter_contributes lines).trans h, Table.size_congr hagain, fun query ↦ ?_⟩
  rw [Table.lookup, Table.lookup, hagain]

/-- Lines of which a later one enters an earlier one's name again, as another name. -/
def sharedName : List (List Char) :=
  ["tcp 6 TCP # transmission", "# udp 17 UDP", "udp x UDP", "Rdp 27 tcp", "TCP"].map String.toList

/-- The later line's number counts, and lines that are comment or malformed enter nothing. -/
theorem sharedName_last_wins :
    ∃ t, Table.ofLines sharedName = .ok t ∧ t.lookup "TCP" = some 27 ∧ t.lookup "udp" = none ∧
      t.size = 2 := by
  have h : Table.ofLines sharedName = .ok ⟨[("tcp", 27), ("rdp", 27), ("tcp", 6), ("tcp", 6)]⟩ := by
    rfl
  obtain ⟨-, -, hlookup, hsize, -⟩ := last_line_wins h
  refine ⟨_, h, (hlookup "TCP").trans ?_, (hlookup "udp").trans ?_, hsize.trans ?_⟩
  · decide +kernel
  · decide +kernel
  · decide +kernel

end CaptureFilter.Protocol
