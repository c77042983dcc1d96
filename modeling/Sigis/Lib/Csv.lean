import Mathlib.Data.List.Basic

namespace csv

/-- The characters a table of texts is written with. Lines end with a carriage return and a line
feed, which are neither of them. -/
structure Dialect where
  delimiter : Char
  quotechar : Char
  distinct : quotechar ≠ delimiter
  delimiter_in_line : delimiter ≠ '\r' ∧ delimiter ≠ '\n'
  quotechar_in_line : quotechar ≠ '\r' ∧ quotechar ≠ '\n'

/-- Comma and double quote. -/
def Dialect.excel : Dialect := ⟨',', '"', by decide, by decide, by decide⟩

variable {d : Dialect} {c : Char} {field text : List Char}

/-- A field with this character has to be quoted. -/
def Dialect.Special (d : Dialect) (c : Char) : Prop :=
  c = d.delimiter ∨ c = d.quotechar ∨ c = '\r' ∨ c = '\n'

instance : Decidable (d.Special c) := inferInstanceAs (Decidable (_ ∨ _))

/-- The field with every quote written twice. -/
def Dialect.doubled (d : Dialect) (field : List Char) : List Char :=
  field.flatMap fun c => if c = d.quotechar then [c, c] else [c]

/-- The field between quotes. -/
def Dialect.quoted (d : Dialect) (field : List Char) : List Char :=
  d.quotechar :: (d.doubled field ++ [d.quotechar])

/-- The field holds a character that would end it, or that quotes. -/
def Dialect.NeedsQuotes (d : Dialect) (field : List Char) : Prop := ∃ c ∈ field, d.Special c

instance : Decidable (d.NeedsQuotes field) := List.decidableBEx d.Special field

/-- A field needs no quotes when none of its characters is special. -/
theorem not_needsQuotes_iff : ¬ d.NeedsQuotes field ↔ ∀ c ∈ field, ¬ d.Special c := by
  simp [Dialect.NeedsQuotes]

/-- Only a field that needs quotes gets them. -/
def Dialect.write_field (d : Dialect) (field : List Char) : List Char :=
  if d.NeedsQuotes field then d.quoted field else field

/-- The fields of a row, with the delimiter between them. -/
def Dialect.write_fields (d : Dialect) : List (List Char) → List Char
  | [] => []
  | [field] => d.write_field field
  | field :: fields => d.write_field field ++ d.delimiter :: d.write_fields fields

@[simp] theorem write_fields_nil (d : Dialect) : d.write_fields [] = [] := rfl

@[simp] theorem write_fields_cons_cons (d : Dialect) (field next : List Char) (fields : List (List Char)) :
    d.write_fields (field :: next :: fields) =
      d.write_field field ++ d.delimiter :: d.write_fields (next :: fields) := rfl

/-- A line with one empty field is told from an empty line by its quotes. -/
def Dialect.write_row (d : Dialect) (row : List (List Char)) : List Char :=
  (if row = [[]] then d.quoted [] else d.write_fields row) ++ ['\r', '\n']

/-- All the rows, each with its line end. -/
def Dialect.write (d : Dialect) (rows : List (List (List Char))) : List Char := rows.flatMap d.write_row

/-- Where the reader stands. -/
inductive Place
  | start_record
  | start_field
  | in_field
  | in_quoted_field
  | quote_in_quoted_field
  | after_return
deriving DecidableEq

/-- What the reader has gathered: the field and the record it is in, and the records before. -/
structure Reader where
  place : Place := .start_record
  field : List Char := []
  row : List (List Char) := []
  rows : List (List (List Char)) := []

/-- The field is complete. -/
def Reader.saved (r : Reader) (place : Place) : Reader :=
  { r with place := place, field := [], row := r.row ++ [r.field] }

/-- One more character of the field that is being read. -/
def Reader.add (r : Reader) (place : Place) (c : Char) : Reader :=
  { r with place := place, field := r.field ++ [c] }

/-- A character after a field: a delimiter, or the beginning of a line end. -/
def Dialect.end_field (d : Dialect) (r : Reader) (c : Char) : Option Reader :=
  if c = d.delimiter then some (r.saved .start_field) else if c = '\r' then some (r.saved .after_return) else none

/-- A character inside of a plain field: it ends the field or the row, or belongs to it. -/
def Dialect.step_field (d : Dialect) (r : Reader) (c : Char) : Option Reader :=
  if c = d.delimiter ∨ c = '\r' then d.end_field r c else if c = '\n' then none else some (r.add .in_field c)

/-- A character at the start of a field: a quote opens a quoted one. -/
def Dialect.step_start (d : Dialect) (r : Reader) (c : Char) : Option Reader :=
  if c = d.quotechar then some { r with place := .in_quoted_field } else d.step_field r c

/-- One character. A text that is not a table is refused. -/
def Dialect.step (d : Dialect) (r : Reader) (c : Char) : Option Reader :=
  match r.place with
  | .start_record => if c = '\r' then some { r with place := .after_return } else d.step_start r c
  | .start_field => d.step_start r c
  | .in_field => d.step_field r c
  | .in_quoted_field =>
    if c = d.quotechar then some { r with place := .quote_in_quoted_field } else some (r.add .in_quoted_field c)
  | .quote_in_quoted_field =>
    if c = d.quotechar then some (r.add .in_quoted_field c) else d.end_field r c
  | .after_return => if c = '\n' then some { rows := r.rows ++ [r.row] } else none

/-- At the end of the text: the last line may lack its end. -/
def Reader.finish (r : Reader) : Option (List (List (List Char))) :=
  match r.place with
  | .start_record => some r.rows
  | .start_field | .in_field | .quote_in_quoted_field => some (r.rows ++ [r.row ++ [r.field]])
  | .in_quoted_field | .after_return => none

/-- The reader over a text, as long as no character is refused. -/
def Dialect.run (d : Dialect) (r : Reader) (text : List Char) : Option Reader := text.foldlM d.step r

/-- The rows of a text; the end of the text may stand for the last line end. -/
def Dialect.read (d : Dialect) (text : List Char) : Option (List (List (List Char))) :=
  (d.run {} text).bind Reader.finish

variable {r : Reader} {row fields : List (List Char)} {rows more : List (List (List Char))}

@[simp] theorem run_nil : d.run r [] = some r := rfl

theorem run_cons : d.run r (c :: text) = (d.step r c).bind fun s => d.run s text := rfl

/-- A text is read part by part. -/
theorem run_append {rest : List Char} : d.run r (text ++ rest) = (d.run r text).bind fun s => d.run s rest :=
  List.foldlM_append

/-- Characters that are not special belong to the field. -/
theorem run_plain (hplace : r.place = .in_field) (hfield : ∀ c ∈ field, ¬ d.Special c) :
    d.run r field = some { r with field := r.field ++ field } := by
  induction field generalizing r with
  | nil => simp
  | cons c field ih =>
    obtain ⟨hc, hrest⟩ := List.forall_mem_cons.mp hfield
    simp only [Dialect.Special, not_or] at hc
    obtain ⟨hdelimiter, -, hreturn, hfeed⟩ := hc
    have hstep : d.step r c = some (r.add .in_field c) := by
      simp [Dialect.step, hplace, Dialect.step_field, hdelimiter, hreturn, hfeed]
    rw [run_cons, hstep, Option.bind_some, ih rfl hrest]
    simp [Reader.add, ← hplace]

/-- Between quotes every character belongs to the field, a doubled quote once. -/
theorem run_doubled (hplace : r.place = .in_quoted_field) :
    d.run r (d.doubled field) = some { r with field := r.field ++ field } := by
  induction field generalizing r with
  | nil => simp [Dialect.doubled]
  | cons c field ih =>
    have hfirst : d.run r (if c = d.quotechar then [c, c] else [c]) = some (r.add .in_quoted_field c) := by
      by_cases hquote : c = d.quotechar
      · simp [hquote, run_cons, Dialect.step, hplace, Reader.add]
      · simp [hquote, run_cons, Dialect.step, hplace]
    rw [Dialect.doubled, List.flatMap_cons, run_append, hfirst, Option.bind_some]
    change d.run _ (d.doubled field) = _
    rw [ih rfl]
    simp [Reader.add, ← hplace]

/-- A written field is read up to the character after it. -/
theorem run_write_field (hplace : r.place = .start_field) (hempty : r.field = [])
    (hc : c = d.delimiter ∨ c = '\r') :
    d.run r (d.write_field field ++ c :: text) =
      (d.end_field { r with field := field } c).bind fun s => d.run s text := by
  have hquote : c ≠ d.quotechar := by
    rcases hc with rfl | rfl
    · exact d.distinct.symm
    · exact d.quotechar_in_line.1.symm
  unfold Dialect.write_field
  split
  · have hopen : d.step r d.quotechar = some { r with place := .in_quoted_field } := by
      simp [Dialect.step, hplace, Dialect.step_start]
    have hclose (s : Reader) (hs : s.place = .in_quoted_field) :
        d.step s d.quotechar = some { s with place := .quote_in_quoted_field } := by
      simp [Dialect.step, hs]
    rw [Dialect.quoted, List.cons_append, run_cons, hopen, Option.bind_some, List.append_assoc, run_append,
      run_doubled rfl, Option.bind_some, List.singleton_append, run_cons, hclose _ rfl, Option.bind_some, run_cons]
    simp [Dialect.step, hquote, Dialect.end_field, Reader.saved, hempty]
  · next hplain =>
    rw [not_needsQuotes_iff] at hplain
    cases field with
    | nil =>
      have hsame : ({ r with field := [] } : Reader) = r := by rw [← hempty]
      have hstep : d.step r c = d.end_field r c := by
        simp [Dialect.step, hplace, Dialect.step_start, hquote, Dialect.step_field, hc]
      rw [List.nil_append, run_cons, hstep, hsame]
    | cons first field =>
      obtain ⟨hfirst, hrest⟩ := List.forall_mem_cons.mp hplain
      simp only [Dialect.Special, not_or] at hfirst
      obtain ⟨hdelimiter, hquotechar, hreturn, hfeed⟩ := hfirst
      have hstep : d.step r first = some (r.add .in_field first) := by
        simp [Dialect.step, hplace, Dialect.step_start, hquotechar, Dialect.step_field, hdelimiter, hreturn, hfeed]
      rw [List.cons_append, run_cons, hstep, Option.bind_some, run_append, run_plain rfl hrest, Option.bind_some,
        run_cons]
      simp [Dialect.step, Dialect.step_field, hc, Reader.add, hempty, Dialect.end_field, Reader.saved]

/-- The end of a line after its last field. -/
theorem run_line_end : (d.end_field r '\r').bind (fun s => d.run s ['\n']) =
    some { rows := r.rows ++ [r.row ++ [r.field]] } := by
  simp [Dialect.end_field, d.delimiter_in_line.1.symm, run_cons, Dialect.step, Reader.saved]

/-- A written row is read back, field by field. -/
theorem run_write_fields (hplace : r.place = .start_field) (hempty : r.field = []) (hfields : fields ≠ []) :
    d.run r (d.write_fields fields ++ ['\r', '\n']) = some { rows := r.rows ++ [r.row ++ fields] } := by
  induction fields generalizing r with
  | nil => exact absurd rfl hfields
  | cons field fields ih =>
    cases fields with
    | nil => exact (run_write_field hplace hempty (Or.inr rfl)).trans run_line_end
    | cons next fields =>
      rw [write_fields_cons_cons, List.append_assoc, List.cons_append, run_write_field hplace hempty (Or.inl rfl)]
      rw [Dialect.end_field, if_pos rfl, Option.bind_some, ih rfl rfl (List.cons_ne_nil _ _)]
      simp [Reader.saved]

/-- A record does not begin with a line end, unless it is empty. -/
theorem run_start_record (hplace : r.place = .start_record) (htext : text.head? ≠ some '\r') (hnil : text ≠ []) :
    d.run r text = d.run { r with place := .start_field } text := by
  cases text with
  | nil => exact absurd rfl hnil
  | cons c text =>
    have hc : c ≠ '\r' := fun h => htext (congrArg some h)
    have hstep : d.step r c = d.step { r with place := .start_field } c := by
      simp [Dialect.step, hplace, hc, Dialect.step_start, Dialect.step_field, Dialect.end_field, Reader.saved,
        Reader.add]
    rw [run_cons, run_cons, hstep]

/-- No written field starts with a line end. -/
theorem head_write_field_ne (hfield : field ≠ []) : (d.write_field field).head? ≠ some '\r' := by
  unfold Dialect.write_field
  split
  · simp [Dialect.quoted, d.quotechar_in_line.1]
  · next hplain =>
    rw [not_needsQuotes_iff] at hplain
    obtain ⟨first, rest, rfl⟩ := List.exists_cons_of_ne_nil hfield
    have hfirst := hplain first List.mem_cons_self
    simp only [Dialect.Special, not_or] at hfirst
    simp [hfirst.2.2.1]

/-- A field that is not empty is not written as nothing. -/
theorem write_field_ne_nil (hfield : field ≠ []) : d.write_field field ≠ [] := by
  unfold Dialect.write_field
  split
  · simp [Dialect.quoted]
  · exact hfield

/-- A written row starts with its first field. -/
theorem exists_write_fields (d : Dialect) (field : List Char) (fields : List (List Char)) :
    ∃ tail, d.write_fields (field :: fields) = d.write_field field ++ tail := by
  cases fields with
  | nil => exact ⟨[], (List.append_nil _).symm⟩
  | cons next fields => exact ⟨_, rfl⟩

/-- A written line is read as one more record. -/
theorem run_write_row : d.run { rows := rows } (d.write_row row) = some { rows := rows ++ [row] } := by
  by_cases hblank : row = [[]]
  · subst hblank
    simp [Dialect.write_row, Dialect.quoted, Dialect.doubled, run_cons, Dialect.step, Dialect.step_start,
      d.quotechar_in_line.1, d.quotechar_in_line.1.symm, Dialect.end_field, d.delimiter_in_line.1.symm, Reader.saved]
  · rw [Dialect.write_row, if_neg hblank]
    cases row with
    | nil => simp [run_cons, Dialect.step]
    | cons field fields =>
      have hstart : (d.write_fields (field :: fields) ++ ['\r', '\n']).head? ≠ some '\r' := by
        obtain ⟨tail, htail⟩ := exists_write_fields d field fields
        by_cases hfield : field = []
        · cases fields with
          | nil => exact absurd (congrArg (fun f => [f]) hfield) hblank
          | cons next fields =>
            subst hfield
            simp [Dialect.write_field, Dialect.NeedsQuotes, d.delimiter_in_line.1]
        · rw [htail, List.append_assoc, List.head?_append_of_ne_nil _ (write_field_ne_nil hfield)]
          exact head_write_field_ne hfield
      rw [run_start_record rfl hstart (by simp), run_write_fields rfl rfl (List.cons_ne_nil _ _)]
      simp

/-- Written rows are read after those that were there. -/
theorem run_write : d.run { rows := rows } (d.write more) = some { rows := rows ++ more } := by
  induction more generalizing rows with
  | nil => simp [Dialect.write]
  | cons row more ih =>
    rw [Dialect.write, List.flatMap_cons, run_append, run_write_row, Option.bind_some]
    change d.run _ (d.write more) = _
    rw [ih, List.append_assoc, List.singleton_append]

/-- Every table can be read back from its text. -/
theorem read_write (rows : List (List (List Char))) : d.read (d.write rows) = some rows := by
  rw [Dialect.read, run_write, Option.bind_some, List.nil_append, Reader.finish]

/-- The rows of texts, as one text. -/
def Dialect.write_text (d : Dialect) (rows : List (List String)) : String :=
  String.ofList (d.write (rows.map fun row => row.map String.toList))

/-- The rows of texts that a text spells. -/
def Dialect.read_text (d : Dialect) (text : String) : Option (List (List String)) :=
  (d.read text.toList).map fun rows => rows.map fun row => row.map String.ofList

/-- What is written is read back, for texts. -/
theorem read_write_text (rows : List (List String)) : d.read_text (d.write_text rows) = some rows := by
  simp [Dialect.read_text, Dialect.write_text, read_write]

end csv
