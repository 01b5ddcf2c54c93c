/-
  DmSimulator.Lib.Csv

  Comma-separated values.  The writer quotes the cells that need it; the reader is a
  state machine over the characters that also sees where the lines end, and may refuse
  cells above a limit.  What the writer makes of a table, and any other text that spells
  its cells, reads back as the table, as long as its cells fit.
-/
import Mathlib.Data.List.Forall2

namespace DmSimulator.Csv

abbrev Cell : Type := List Char

-- ============================================================================
-- Writing
-- ============================================================================

def isNewline (c : Char) : Bool := c = '\n' || c = '\r'

/-- A cell with one of these characters is quoted. -/
def isSpecial (c : Char) : Bool := c = ',' || c = '"' || isNewline c

/-- The quotes in a cell are doubled. -/
def doubled (cell : Cell) : List Char :=
  cell.flatMap (fun c => if c = '"' then ['"', '"'] else [c])

def quoted (cell : Cell) : List Char := '"' :: doubled cell ++ ['"']

def cellText (cell : Cell) : List Char := if cell.any isSpecial then quoted cell else cell

/-- A row of one empty cell is told from an empty row by its quotes. -/
def rowText (row : List Cell) : List Char :=
  if row = [[]] then quoted [] else [','].intercalate (row.map cellText)

def writeRows (rows : List (List Cell)) : List Char :=
  rows.flatMap (fun row => rowText row ++ ['\r', '\n'])

-- ============================================================================
-- Reading
-- ============================================================================

inductive State
  | startRecord
  | startField
  | inField
  | inQuotedField
  | quoteInQuotedField
  | eatNewline
deriving DecidableEq

/-- Where the reader is in a line of the text.  A line ends after a newline, or after a
    carriage return that no newline follows. -/
inductive Position
  | fresh
  | inside
  | afterReturn
deriving DecidableEq

structure Reader where
  rows : List (List Cell) := []
  fields : List Cell := []
  field : Cell := []
  state : State := .startRecord
  position : Position := .fresh

namespace Reader

section Steps

variable (limit : Option Nat)

/-- One more character of a field, up to the limit if there is one. -/
def addChar (r : Reader) (c : Char) : Except String Reader :=
  match limit with
  | none => return { r with field := r.field ++ [c] }
  | some bound =>
      if bound ≤ r.field.length then throw s!"field larger than field limit ({bound})"
      else return { r with field := r.field ++ [c] }

def saveField (r : Reader) : Reader := { r with fields := r.fields ++ [r.field], field := [] }

/-- A character at the start of a field. -/
def startField (r : Reader) (c : Char) : Except String Reader :=
  if isNewline c then return { r.saveField with state := .eatNewline }
  else if c = '"' then return { r with state := .inQuotedField }
  else if c = ',' then return { r.saveField with state := .startField }
  else addChar limit { r with state := .inField } c

def processChar (r : Reader) (c : Char) : Except String Reader :=
  match r.state with
  | .startRecord =>
      if isNewline c then return { r with state := .eatNewline }
      else r.startField limit c
  | .startField => r.startField limit c
  | .inField =>
      if isNewline c then return { r.saveField with state := .eatNewline }
      else if c = ',' then return { r.saveField with state := .startField }
      else r.addChar limit c
  | .inQuotedField =>
      if c = '"' then return { r with state := .quoteInQuotedField }
      else r.addChar limit c
  | .quoteInQuotedField =>
      if c = '"' then addChar limit { r with state := .inQuotedField } c
      else if c = ',' then return { r.saveField with state := .startField }
      else if isNewline c then return { r.saveField with state := .eatNewline }
      else addChar limit { r with state := .inField } c
  | .eatNewline =>
      if isNewline c then return r
      else throw "new-line character seen in unquoted field"

/-- The end of a line is the end of the record, except inside quotes. -/
def endLine (r : Reader) : Reader :=
  match r.state with
  | .startRecord | .eatNewline => { rows := r.rows ++ [r.fields] }
  | .startField | .inField | .quoteInQuotedField =>
      { rows := r.rows ++ [r.fields ++ [r.field]] }
  | .inQuotedField => { r with position := .fresh }

def next (r : Reader) (c : Char) : Except String Reader := do
  let r := if r.position = .afterReturn ∧ c ≠ '\n' then r.endLine else r
  let r ← r.processChar limit c
  if c = '\n' then return r.endLine
  else return { r with position := if c = '\r' then .afterReturn else .inside }

/-- The rows at the end of the text. -/
def finish (r : Reader) : List (List Cell) :=
  let r := if r.position = .fresh then r else r.endLine
  if r.state = .inQuotedField then r.rows ++ [r.fields ++ [r.field]] else r.rows

end Steps

end Reader

/-- The rows of a text, for a reader with or without a limit on its fields. -/
def readRows (limit : Option Nat) (text : List Char) : Except String (List (List Cell)) := do
  let r ← text.foldlM (Reader.next limit) {}
  return r.finish

-- ============================================================================
-- Cells
-- ============================================================================

/-- A text that stands for a cell: the cell itself, if nothing in it is special, or
    the cell in quotes. -/
inductive Spells : List Char → Cell → Prop
  | bare {cell : Cell} (h : ∀ c ∈ cell, isSpecial c = false) : Spells cell cell
  | quoted (cell : Cell) : Spells (quoted cell) cell

theorem spells_cellText (cell : Cell) : Spells (cellText cell) cell := by
  unfold cellText
  split
  next => exact Spells.quoted cell
  next h =>
      refine Spells.bare (fun c hc => ?_)
      rw [List.any_eq_true] at h
      exact Bool.eq_false_iff.mpr (fun hspecial => h ⟨c, hc, hspecial⟩)

/-- The cell is within the limit. -/
def Fits (limit : Option Nat) (cell : Cell) : Prop := ∀ bound ∈ limit, cell.length ≤ bound

instance (limit : Option Nat) (cell : Cell) : Decidable (Fits limit cell) :=
  match limit with
  | none => .isTrue fun bound hbound => absurd hbound (Option.not_mem_none bound)
  | some bound =>
      decidable_of_iff (cell.length ≤ bound)
        ⟨fun hle _ hother => Option.mem_some_iff.mp hother ▸ hle, fun h => h bound rfl⟩

/-- A reader without a limit takes every cell. -/
theorem fits_none (cell : Cell) : Fits none cell :=
  fun bound hbound => absurd hbound (Option.not_mem_none bound)

theorem Fits.of_append {limit : Option Nat} {first second : Cell}
    (h : Fits limit (first ++ second)) : Fits limit first := by
  intro bound hbound
  have hle := h bound hbound
  rw [List.length_append] at hle
  exact Nat.le_of_add_right_le hle

theorem cellText_eq_nil {cell : Cell} (h : cellText cell = []) : cell = [] := by
  unfold cellText at h
  split at h
  next => cases h
  next => exact h

namespace Reader

variable {limit : Option Nat} {rows : List (List Cell)} {fields : List Cell}
  {field cell : Cell} {text : List Char}

theorem addChar_eq {c : Char} (h : Fits limit (field ++ [c])) (state : State)
    (position : Position) :
    addChar limit ⟨rows, fields, field, state, position⟩ c =
      .ok ⟨rows, fields, field ++ [c], state, position⟩ := by
  unfold addChar
  cases limit with
  | none => rfl
  | some bound =>
      have hle := h bound rfl
      rw [List.length_append] at hle
      exact if_neg (Nat.not_le.mpr hle)

theorem not_special {c : Char} (h : isSpecial c = false) :
    isNewline c = false ∧ c ≠ ',' ∧ c ≠ '"' ∧ c ≠ '\n' ∧ c ≠ '\r' := by
  simp only [isSpecial, isNewline, Bool.or_eq_false_iff, decide_eq_false_iff_not] at h
  obtain ⟨⟨hcomma, hquote⟩, hnewline, hreturn⟩ := h
  refine ⟨?_, hcomma, hquote, hnewline, hreturn⟩
  rw [isNewline, decide_eq_false hnewline, decide_eq_false hreturn]
  rfl

theorem next_inField {c : Char} (h : isSpecial c = false) (hfits : Fits limit (field ++ [c])) :
    next limit ⟨rows, fields, field, .inField, .inside⟩ c =
      .ok ⟨rows, fields, field ++ [c], .inField, .inside⟩ := by
  obtain ⟨hnewline, hcomma, -, hn, hr⟩ := not_special h
  simp [next, processChar, hnewline, hcomma, hn, hr, addChar_eq hfits, pure, Except.pure, bind,
    Except.bind]

/-- The characters of a cell that is not quoted. -/
theorem read_inField (h : ∀ c ∈ text, isSpecial c = false) (hfits : Fits limit (field ++ text)) :
    text.foldlM (next limit) ⟨rows, fields, field, .inField, .inside⟩ =
      .ok ⟨rows, fields, field ++ text, .inField, .inside⟩ := by
  induction text generalizing field with
  | nil =>
      rw [List.append_nil]
      rfl
  | cons c rest ih =>
      rw [List.append_cons] at hfits ⊢
      rw [List.foldlM_cons, next_inField (h c List.mem_cons_self) hfits.of_append]
      show rest.foldlM (next limit) ⟨rows, fields, field ++ [c], .inField, .inside⟩ = _
      exact ih (fun d hd => h d (List.mem_cons_of_mem c hd)) hfits

/-- Between quotes every character is part of the cell, at the end of a line as well. -/
theorem next_inQuotedField {c : Char} (h : c ≠ '"') (hfits : Fits limit (field ++ [c]))
    (position : Position) :
    ∃ position', next limit ⟨rows, fields, field, .inQuotedField, position⟩ c =
      .ok ⟨rows, fields, field ++ [c], .inQuotedField, position'⟩ := by
  have hprocess : ∀ position : Position,
      processChar limit ⟨rows, fields, field, .inQuotedField, position⟩ c =
        .ok ⟨rows, fields, field ++ [c], .inQuotedField, position⟩ := by
    intro position
    simp [processChar, h, addChar_eq hfits]
  unfold next
  simp only [endLine]
  split
  next =>
      rw [hprocess]
      by_cases hn : c = '\n'
      · exact ⟨.fresh, by simp [hn, bind, Except.bind, pure, Except.pure]⟩
      · exact ⟨_, by simp [hn, bind, Except.bind, pure, Except.pure]; rfl⟩
  next =>
      rw [hprocess]
      by_cases hn : c = '\n'
      · exact ⟨.fresh, by simp [hn, bind, Except.bind, pure, Except.pure]⟩
      · exact ⟨_, by simp [hn, bind, Except.bind, pure, Except.pure]; rfl⟩

theorem next_quote (position : Position) :
    next limit ⟨rows, fields, field, .inQuotedField, position⟩ '"' =
      .ok ⟨rows, fields, field, .quoteInQuotedField, .inside⟩ := by
  cases position <;> rfl

/-- The characters between quotes, and the last quote. -/
theorem read_doubled (hfits : Fits limit (field ++ cell)) (position : Position) :
    (doubled cell ++ ['"']).foldlM (next limit) ⟨rows, fields, field, .inQuotedField, position⟩ =
      .ok ⟨rows, fields, field ++ cell, .quoteInQuotedField, .inside⟩ := by
  induction cell generalizing field position with
  | nil =>
      rw [List.append_nil]
      exact (List.foldlM_cons).trans (by rw [next_quote]; rfl)
  | cons c rest ih =>
      rw [List.append_cons] at hfits
      have hchar : Fits limit (field ++ [c]) := hfits.of_append
      have hstep : ∃ position', (if c = '"' then ['"', '"'] else [c]).foldlM (next limit)
          ⟨rows, fields, field, .inQuotedField, position⟩ =
            .ok ⟨rows, fields, field ++ [c], .inQuotedField, position'⟩ := by
        by_cases hc : c = '"'
        · subst hc
          have hsecond : next limit ⟨rows, fields, field, .quoteInQuotedField, .inside⟩ '"' =
              .ok ⟨rows, fields, field ++ ['"'], .inQuotedField, .inside⟩ := by
            simp [next, processChar, addChar_eq hchar, pure, Except.pure, bind, Except.bind]
          refine ⟨.inside, ?_⟩
          rw [if_pos rfl, List.foldlM_cons, next_quote]
          show List.foldlM (next limit) _ ['"'] = _
          rw [List.foldlM_cons, hsecond]
          rfl
        · rw [if_neg hc, List.foldlM_cons]
          obtain ⟨position', hnext⟩ := next_inQuotedField hc hchar position
          exact ⟨position', by rw [hnext]; rfl⟩
      obtain ⟨position', hstep⟩ := hstep
      have hsplit : doubled (c :: rest) ++ ['"'] =
          (if c = '"' then ['"', '"'] else [c]) ++ (doubled rest ++ ['"']) := by
        rw [doubled, List.flatMap_cons, List.append_assoc]
        rfl
      rw [hsplit, List.foldlM_append, hstep]
      show (doubled rest ++ ['"']).foldlM (next limit) _ = _
      rw [ih hfits position', List.append_assoc]
      rfl

-- ============================================================================
-- Rows
-- ============================================================================

/-- The reader before the first field of a row, or after a comma. -/
def opening (rows : List (List Cell)) (fields : List Cell) : Reader :=
  if fields = [] then ⟨rows, [], [], .startRecord, .fresh⟩
  else ⟨rows, fields, [], .startField, .inside⟩

/-- The reader after the text of a cell. -/
inductive Seen (rows : List (List Cell)) (fields : List Cell) : Cell → Reader → Prop
  | bare (cell : Cell) : Seen rows fields cell ⟨rows, fields, cell, .inField, .inside⟩
  | quoted (cell : Cell) :
      Seen rows fields cell ⟨rows, fields, cell, .quoteInQuotedField, .inside⟩
  | nothing : Seen rows fields [] (opening rows fields)

theorem next_opening {c : Char} (h : isSpecial c = false) (hfits : Fits limit [c]) :
    (opening rows fields).next limit c = .ok ⟨rows, fields, [c], .inField, .inside⟩ := by
  obtain ⟨hnewline, hcomma, hquote, hn, hr⟩ := not_special h
  have hadd := fun position => @addChar_eq limit rows fields [] c hfits .inField position
  rw [List.nil_append] at hadd
  unfold opening
  split
  next hnil =>
      rw [hnil] at hadd ⊢
      simp [next, processChar, startField, hadd, hnewline, hcomma, hquote, hn, hr, pure,
        Except.pure, bind, Except.bind]
  next =>
      simp [next, processChar, startField, hadd, hnewline, hcomma, hquote, hn, hr, pure,
        Except.pure, bind, Except.bind]

theorem next_opening_quote :
    (opening rows fields).next limit '"' = .ok ⟨rows, fields, [], .inQuotedField, .inside⟩ := by
  unfold opening
  split
  next hnil =>
      rw [hnil]
      rfl
  next => rfl

/-- The text of a cell is read as the cell, and only the empty text leaves the reader
    where it was. -/
theorem read_cell (h : Spells text cell) (hfits : Fits limit cell) :
    ∃ r, text.foldlM (next limit) (opening rows fields) = .ok r ∧ Seen rows fields cell r ∧
      (r = opening rows fields → text = []) := by
  cases h with
  | bare hcell =>
      cases cell with
      | nil => exact ⟨_, rfl, Seen.nothing, fun _ => rfl⟩
      | cons c rest =>
          refine ⟨_, ?_, Seen.bare (c :: rest), fun heq => ?_⟩
          · rw [List.foldlM_cons, next_opening (hcell c List.mem_cons_self)
              (@Fits.of_append limit [c] rest hfits)]
            exact read_inField (fun d hd => hcell d (List.mem_cons_of_mem c hd)) hfits
          · unfold opening at heq
            split at heq <;> cases heq
  | quoted cell =>
      refine ⟨_, ?_, Seen.quoted cell, fun heq => ?_⟩
      · show ('"' :: (doubled cell ++ ['"'])).foldlM (next limit) _ = _
        rw [List.foldlM_cons, next_opening_quote]
        exact read_doubled hfits .inside
      · unfold opening at heq
        split at heq <;> cases heq

theorem next_comma {r : Reader} (h : Seen rows fields cell r) :
    r.next limit ',' = .ok (opening rows (fields ++ [cell])) := by
  have hopening : opening rows (fields ++ [cell]) =
      ⟨rows, fields ++ [cell], [], .startField, .inside⟩ := if_neg (by simp)
  rw [hopening]
  cases h with
  | bare => rfl
  | quoted => rfl
  | nothing =>
      unfold opening
      split
      next hnil =>
          rw [hnil]
          rfl
      next => rfl

/-- What ends a row. -/
def IsTerminator (text : List Char) : Prop := text = ['\n'] ∨ text = ['\r', '\n']

theorem read_terminator {r : Reader} {terminator : List Char} (hend : IsTerminator terminator)
    (h : Seen rows fields cell r) (hrow : r = opening rows fields → fields ≠ []) :
    terminator.foldlM (next limit) r = .ok (opening (rows ++ [fields ++ [cell]]) []) := by
  cases h with
  | bare => rcases hend with rfl | rfl <;> rfl
  | quoted => rcases hend with rfl | rfl <;> rfl
  | nothing =>
      unfold opening
      rw [if_neg (hrow rfl)]
      rcases hend with rfl | rfl <;> rfl

/-- A row that is spelled with a terminator reads as the row. -/
theorem read_row {texts : List (List Char)} {row : List Cell} {terminator : List Char}
    (hend : IsTerminator terminator) (hspells : List.Forall₂ Spells texts row)
    (hne : row ≠ []) (hrow : texts = [[]] → fields ≠ []) (hfits : ∀ cell ∈ row, Fits limit cell) :
    ([','].intercalate texts ++ terminator).foldlM (next limit) (opening rows fields) =
      .ok (opening (rows ++ [fields ++ row]) []) := by
  induction hspells generalizing fields with
  | nil => exact absurd rfl hne
  | @cons text cell texts row hcell hrest ih =>
      obtain ⟨hcellFits, hrestFits⟩ := List.forall_mem_cons.mp hfits
      obtain ⟨r, hread, hseen, hsame⟩ := @read_cell limit rows fields cell text hcell hcellFits
      cases hrest with
      | nil =>
          have hone : [','].intercalate [text] = text := List.intercalate_singleton
          rw [hone, List.foldlM_append, hread]
          exact read_terminator hend hseen (fun heq => hrow (by rw [hsame heq]))
      | @cons text' cell' texts row hcell' hrest' =>
          have hsplit : [','].intercalate (text :: text' :: texts) ++ terminator =
              text ++ ',' :: ([','].intercalate (text' :: texts) ++ terminator) := by
            rw [List.intercalate_cons_cons, List.append_assoc, List.append_assoc]
            rfl
          rw [hsplit, List.foldlM_append, hread]
          show (',' :: _).foldlM (next limit) r = _
          rw [List.foldlM_cons, next_comma hseen]
          show ([','].intercalate (text' :: texts) ++ terminator).foldlM (next limit) _ = _
          rw [ih (by simp) (fun _ => by simp) hrestFits, List.append_assoc]
          rfl

end Reader

-- ============================================================================
-- Tables
-- ============================================================================

variable {limit : Option Nat}

/-- Lines that spell the rows of a table read as the table. -/
theorem read_lines {lines : List (List Char)} {rows rows' : List (List Cell)}
    (h : List.Forall₂ (fun line row => ∀ rows,
      line.foldlM (Reader.next limit) (Reader.opening rows []) =
        .ok (Reader.opening (rows ++ [row]) [])) lines rows) :
    lines.flatten.foldlM (Reader.next limit) (Reader.opening rows' []) =
      .ok (Reader.opening (rows' ++ rows) []) := by
  induction h generalizing rows' with
  | nil =>
      rw [List.append_nil]
      rfl
  | @cons line row lines rows hline hrest ih =>
      rw [List.flatten_cons, List.foldlM_append, hline]
      show lines.flatten.foldlM (Reader.next limit) _ = _
      rw [ih, List.append_assoc]
      rfl

theorem readRows_of_opening {text : List Char} {rows : List (List Cell)}
    (h : text.foldlM (Reader.next limit) (Reader.opening [] []) =
      .ok (Reader.opening rows [])) :
    readRows limit text = .ok rows := by
  unfold readRows
  rw [show ({} : Reader) = Reader.opening [] [] from rfl, h]
  rfl

/-- The line that is written for a row reads as the row. -/
theorem read_rowText {row : List Cell} (hfits : ∀ cell ∈ row, Fits limit cell)
    (rows : List (List Cell)) :
    (rowText row ++ ['\r', '\n']).foldlM (Reader.next limit) (Reader.opening rows []) =
      .ok (Reader.opening (rows ++ [row]) []) := by
  have hend : Reader.IsTerminator ['\r', '\n'] := Or.inr rfl
  unfold rowText
  by_cases hone : row = [[]]
  · rw [if_pos hone, hone]
    exact @Reader.read_row limit rows [] [quoted []] [[]] _ hend
      (List.Forall₂.cons (Spells.quoted []) List.Forall₂.nil) (by simp) (fun h => by cases h)
      (hone ▸ hfits)
  · rw [if_neg hone]
    cases row with
    | nil => rfl
    | cons cell rest =>
        refine Reader.read_row hend ?_ (by simp) (fun h => absurd ?_ hone) hfits
        · exact List.forall₂_map_left_iff.mpr
            (List.forall₂_same.mpr (fun cell _ => spells_cellText cell))
        · rw [List.map_cons, List.cons.injEq, List.map_eq_nil_iff] at h
          rw [cellText_eq_nil h.1, h.2]

/-- What is written reads back, whatever the cells hold, as long as they fit. -/
theorem readRows_writeRows {rows : List (List Cell)}
    (hfits : ∀ row ∈ rows, ∀ cell ∈ row, Fits limit cell) :
    readRows limit (writeRows rows) = .ok rows := by
  refine readRows_of_opening ?_
  rw [writeRows, List.flatMap]
  refine @read_lines limit _ rows [] ?_
  exact List.forall₂_map_left_iff.mpr
    (List.forall₂_same.mpr (fun row hrow rows => read_rowText (hfits row hrow) rows))

/-- Lines of cells without special characters, each line with a newline at its end. -/
def plainLines (rows : List (List Cell)) : List Char :=
  rows.flatMap (fun row => [','].intercalate row ++ ['\n'])

theorem readRows_plainLines {rows : List (List Cell)}
    (hrows : ∀ row ∈ rows, row ≠ [] ∧ row ≠ [[]])
    (hcells : ∀ row ∈ rows, ∀ cell ∈ row, ∀ c ∈ cell, isSpecial c = false)
    (hfits : ∀ row ∈ rows, ∀ cell ∈ row, Fits limit cell) :
    readRows limit (plainLines rows) = .ok rows := by
  refine readRows_of_opening ?_
  rw [plainLines, List.flatMap]
  refine @read_lines limit _ rows [] ?_
  refine List.forall₂_map_left_iff.mpr (List.forall₂_same.mpr (fun row hrow rows => ?_))
  obtain ⟨hne, hone⟩ := hrows row hrow
  refine Reader.read_row (Or.inl rfl) ?_ hne (fun h => absurd h hone) (hfits row hrow)
  exact List.forall₂_same.mpr (fun cell hcell => Spells.bare (hcells row hrow cell hcell))

example : readRows none "a,\"x\"\"y\r\nz\"\r\n\"\"\n".toList =
    .ok [["a".toList, "x\"y\r\nz".toList], [[]]] := by
  decide

end DmSimulator.Csv
