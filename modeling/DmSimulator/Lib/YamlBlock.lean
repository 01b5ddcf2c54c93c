/-
  DmSimulator.Lib.YamlBlock

  Block-style YAML documents: nested mappings, one entry to a line, with comments,
  blank lines, plain and single-quoted scalars and flow sequences of plain scalars.

  A `Block` renders to lines, a mapping two columns to the right of its key.
  `read` takes the lines from the last to the first: what is deeper than a key
  without a value belongs to it.
-/
import Mathlib.Data.List.Basic

namespace DmSimulator.Yaml

-- ============================================================================
-- Nodes
-- ============================================================================

inductive Node
  | null
  | scalar (text : String)
  | sequence (items : List Node)
  | map (entries : List (String × Node))

-- ============================================================================
-- Documents
-- ============================================================================

inductive Value
  | plain (text : List Char)
  | quoted (text : List Char)
  | flow (items : List (List Char))

/-- A mapping as it is written: its lines, and the mappings under its keys. -/
inductive Block
  | done
  | blank (rest : Block)
  | comment (text : List Char) (rest : Block)
  | entry (key : List Char) (value : Value) (rest : Block)
  | nested (key : List Char) (body rest : Block)

/-- One line of a mapping with no other mapping in it. -/
inductive Item
  | blank
  | comment (text : List Char)
  | entry (key : List Char) (value : Value)

/-- A mapping that begins with the items. -/
def Block.items : List Item → Block → Block
  | [], rest => rest
  | .blank :: items, rest => .blank (Block.items items rest)
  | .comment text :: items, rest => .comment text (Block.items items rest)
  | .entry key value :: items, rest => .entry key value (Block.items items rest)

/-- The quote is written twice. -/
def escapeQuotes (text : List Char) : List Char :=
  text.flatMap (fun c => if c = '\'' then ['\'', '\''] else [c])

def Value.text : Value → List Char
  | .plain text => text
  | .quoted text => '\'' :: (escapeQuotes text ++ ['\''])
  | .flow items => '[' :: ([',', ' '].intercalate items ++ [']'])

def keyLine (indent : Nat) (key : List Char) : List Char :=
  List.replicate indent ' ' ++ (key ++ [':'])

def Item.line (indent : Nat) : Item → List Char
  | .blank => []
  | .comment text => List.replicate indent ' ' ++ '#' :: text
  | .entry key value => List.replicate indent ' ' ++ (key ++ ':' :: ' ' :: value.text)

/-- The lines of a mapping whose keys stand in the column `indent`. -/
def Block.render (indent : Nat) : Block → List (List Char)
  | .done => []
  | .blank rest => Item.blank.line indent :: rest.render indent
  | .comment text rest => (Item.comment text).line indent :: rest.render indent
  | .entry key value rest => (Item.entry key value).line indent :: rest.render indent
  | .nested key body rest =>
      keyLine indent key :: (body.render (indent + 2) ++ rest.render indent)

theorem render_items (indent : Nat) (items : List Item) (rest : Block) :
    (Block.items items rest).render indent =
      items.map (Item.line indent) ++ rest.render indent := by
  induction items with
  | nil => rfl
  | cons item items ih =>
      cases item <;> simp only [Block.items, Block.render, ih, List.map_cons, List.cons_append]

/-- The text of a document, with a line end after every line. -/
def Block.text (doc : Block) : List Char := ['\n'].intercalate (doc.render 0 ++ [[]])

def Value.node : Value → Node
  | .plain text => .scalar (String.ofList text)
  | .quoted text => .scalar (String.ofList text)
  | .flow items => .sequence (items.map (fun item => .scalar (String.ofList item)))

/-- A key without a value, over the entries below it. -/
def mapNode (entries : List (String × Node)) : Node :=
  match entries with
  | [] => .null
  | _ :: _ => .map entries

/-- The entries of the mapping. -/
def Block.entries : Block → List (String × Node)
  | .done => []
  | .blank rest => rest.entries
  | .comment _ rest => rest.entries
  | .entry key value rest => (String.ofList key, value.node) :: rest.entries
  | .nested key body rest => (String.ofList key, mapNode body.entries) :: rest.entries

/-- The entries among the items. -/
def itemEntries : List Item → List (String × Node)
  | [] => []
  | .entry key value :: items => (String.ofList key, value.node) :: itemEntries items
  | .blank :: items => itemEntries items
  | .comment _ :: items => itemEntries items

theorem entries_items (items : List Item) (rest : Block) :
    (Block.items items rest).entries = itemEntries items ++ rest.entries := by
  induction items with
  | nil => rfl
  | cons item items ih =>
      cases item <;> simp only [Block.items, Block.entries, itemEntries, ih, List.cons_append]

theorem itemEntries_append (first second : List Item) :
    itemEntries (first ++ second) = itemEntries first ++ itemEntries second := by
  induction first with
  | nil => rfl
  | cons item first ih =>
      cases item <;> simp only [List.cons_append, itemEntries, ih]

def Block.node (doc : Block) : Node := mapNode doc.entries

-- ============================================================================
-- Well-formed documents
-- ============================================================================

/-- The characters of plain scalars and keys. -/
def isPlainChar (c : Char) : Bool := c.isAlphanum || ['_', '-', '.', '+'].contains c

def nullWords : List (List Char) := ["null".toList, "Null".toList, "NULL".toList]

/-- A plain scalar that is not the null one. -/
structure IsPlain (text : List Char) : Prop where
  head : ∃ c rest, text = c :: rest ∧ c.isAlphanum = true
  chars : ∀ c ∈ text, isPlainChar c = true
  notNull : text ∉ nullWords

theorem isPlain_toList {text : String} {chars : List Char} (htext : text = String.ofList chars)
    (h : IsPlain chars) : IsPlain text.toList := by
  rw [htext, String.toList_ofList]
  exact h

/-- The characters that stand for themselves in a quoted scalar and a comment. -/
def isPrintable (c : Char) : Bool :=
  let n := c.toNat
  (0x20 ≤ n && n ≤ 0x7E) || (0xA0 ≤ n && n ≤ 0xD7FF) || (0xE000 ≤ n && n ≤ 0xFFFD && n ≠ 0xFEFF) ||
    0x10000 ≤ n

theorem printable_toList {text : String} {chars : List Char} (htext : text = String.ofList chars)
    (h : chars.all isPrintable = true) : ∀ c ∈ text.toList, isPrintable c = true := by
  rw [htext, String.toList_ofList]
  exact List.all_eq_true.mp h

def Value.Valid : Value → Prop
  | .plain text => IsPlain text
  | .quoted text => ∀ c ∈ text, isPrintable c = true
  | .flow items => items ≠ [] ∧ ∀ item ∈ items, IsPlain item

def Block.Valid : Block → Prop
  | .done => True
  | .blank rest => rest.Valid
  | .comment text rest => (∀ c ∈ text, isPrintable c = true) ∧ rest.Valid
  | .entry key value rest => IsPlain key ∧ value.Valid ∧ rest.Valid
  | .nested key body rest => IsPlain key ∧ body.Valid ∧ rest.Valid

def Item.Valid : Item → Prop
  | .blank => True
  | .comment text => ∀ c ∈ text, isPrintable c = true
  | .entry key value => IsPlain key ∧ value.Valid

theorem valid_items {items : List Item} {rest : Block} (hitems : ∀ item ∈ items, item.Valid)
    (hrest : rest.Valid) : (Block.items items rest).Valid := by
  induction items with
  | nil => exact hrest
  | cons item items ih =>
      have hitem := hitems item List.mem_cons_self
      have htail := ih (fun other hother => hitems other (List.mem_cons_of_mem item hother))
      cases item with
      | blank => exact htail
      | comment text => exact ⟨hitem, htail⟩
      | entry key value => exact ⟨hitem.1, hitem.2, htail⟩

instance (text : List Char) : Decidable (IsPlain text) :=
  decidable_of_iff ((text.head?.any Char.isAlphanum = true ∧ text.all isPlainChar = true) ∧
      text ∉ nullWords) (by
    constructor
    · rintro ⟨⟨hhead, hchars⟩, hnull⟩
      refine ⟨?_, List.all_eq_true.mp hchars, hnull⟩
      cases text with
      | nil => exact absurd hhead (by decide)
      | cons c rest => exact ⟨c, rest, rfl, hhead⟩
    · rintro ⟨⟨c, rest, rfl, hc⟩, hchars, hnull⟩
      exact ⟨⟨hc, List.all_eq_true.mpr hchars⟩, hnull⟩)

instance : (value : Value) → Decidable value.Valid
  | .plain text => inferInstanceAs (Decidable (IsPlain text))
  | .quoted text => List.decidableBAll (fun c : Char => isPrintable c = true) text
  | .flow items =>
      have := List.decidableBAll (fun item : List Char => IsPlain item) items
      inferInstanceAs (Decidable (items ≠ [] ∧ ∀ item ∈ items, IsPlain item))

/-- Whether a document is valid, line by line. -/
def Block.decideValid : (doc : Block) → Decidable doc.Valid
  | .done => isTrue trivial
  | .blank rest => rest.decideValid
  | .comment text rest =>
      have := rest.decideValid
      have := List.decidableBAll (fun c : Char => isPrintable c = true) text
      inferInstanceAs (Decidable ((∀ c ∈ text, isPrintable c = true) ∧ rest.Valid))
  | .entry key value rest =>
      have := rest.decideValid
      inferInstanceAs (Decidable (IsPlain key ∧ value.Valid ∧ rest.Valid))
  | .nested key body rest =>
      have := body.decideValid
      have := rest.decideValid
      inferInstanceAs (Decidable (IsPlain key ∧ body.Valid ∧ rest.Valid))

instance (doc : Block) : Decidable doc.Valid := doc.decideValid

instance : (item : Item) → Decidable item.Valid
  | .blank => isTrue trivial
  | .comment text => List.decidableBAll (fun c : Char => isPrintable c = true) text
  | .entry key value => inferInstanceAs (Decidable (IsPlain key ∧ value.Valid))

-- ============================================================================
-- Reading
-- ============================================================================

/-- A quoted scalar after its first quote, and what follows it. -/
def readQuoted : List Char → Option (List Char × List Char)
  | [] => none
  | '\'' :: '\'' :: rest => (readQuoted rest).map (fun read => ('\'' :: read.1, read.2))
  | '\'' :: rest => some ([], rest)
  | c :: rest => (readQuoted rest).map (fun read => (c :: read.1, read.2))

def readPlain (text : List Char) : Option Node :=
  if IsPlain text then some (.scalar (String.ofList text)) else none

def readItem (item : List Char) : Option Node := readPlain (item.dropWhile (· = ' '))

def readValue : List Char → Option Node
  | '\'' :: rest =>
      match readQuoted rest with
      | some (text, []) => some (.scalar (String.ofList text))
      | _ => none
  | '[' :: rest =>
      if rest.getLast? = some ']' then
        ((rest.dropLast.splitOn ',').mapM readItem).map Node.sequence
      else none
  | text => readPlain text

/-- The key of a line and the value beside it, if there is one. -/
def readEntry (content : List Char) : Option (String × Option Node) :=
  let key := content.takeWhile isPlainChar
  if IsPlain key then
    match content.dropWhile isPlainChar with
    | [':'] => some (String.ofList key, none)
    | ':' :: ' ' :: rest => (readValue rest).map (fun node => (String.ofList key, some node))
    | _ => none
  else none

/-- The entries that no key above them has taken yet, each with its column. -/
abbrev Loose : Type := List (Nat × String × Node)

/-- Whether no entry directly below stands deeper than the column. -/
def Loose.Within (below : Loose) (indent : Nat) : Prop := ∀ e ∈ below.head?, e.1 ≤ indent

instance (below : Loose) (indent : Nat) : Decidable (below.Within indent) :=
  inferInstanceAs (Decidable (∀ e ∈ below.head?, e.1 ≤ indent))

/-- A line, read above the lines below it. -/
def readLine (line : List Char) (below : Loose) : Option Loose :=
  let indent := (line.takeWhile (· = ' ')).length
  let content := line.dropWhile (· = ' ')
  if content = [] ∨ content.head? = some '#' then some below
  else
    match readEntry content with
    | none => none
    | some (key, some node) =>
        if below.Within indent then some ((indent, key, node) :: below) else none
    | some (key, none) =>
        let body := below.takeWhile (fun e => indent < e.1)
        if (body.map Prod.fst).Pairwise Eq then
          some ((indent, key, mapNode (body.map Prod.snd)) ::
            below.dropWhile (fun e => indent < e.1))
        else none

def readLines : List (List Char) → Option Loose
  | [] => some []
  | line :: lines => (readLines lines).bind (readLine line)

def read (text : List Char) : Option Node := do
  let entries ← readLines (text.splitOn '\n')
  if ∀ e ∈ entries, e.1 = 0 then return mapNode (entries.map Prod.snd) else none

-- ============================================================================
-- Scalars read back
-- ============================================================================

theorem IsPlain.notMem {text : List Char} (h : IsPlain text) {c : Char}
    (hc : isPlainChar c = false) : c ∉ text := by
  intro hmem
  rw [h.chars c hmem] at hc
  exact absurd hc (by decide)

theorem IsPlain.head_ne {text : List Char} (h : IsPlain text) {c : Char}
    (hc : isPlainChar c = false) : text.head? ≠ some c :=
  fun hhead => h.notMem hc (List.mem_of_mem_head? hhead)

theorem IsPlain.ne_nil {text : List Char} (h : IsPlain text) : text ≠ [] := by
  obtain ⟨c, rest, rfl, -⟩ := h.head
  exact List.cons_ne_nil c rest

theorem IsPlain.readPlain {text : List Char} (h : IsPlain text) :
    readPlain text = some (.scalar (String.ofList text)) := if_pos h

theorem escapeQuotes_cons (c : Char) (text : List Char) :
    escapeQuotes (c :: text) =
      (if c = '\'' then ['\'', '\''] else [c]) ++ escapeQuotes text := by
  simp only [escapeQuotes, List.flatMap_cons]

theorem readQuoted_cons {c : Char} (hc : c ≠ '\'') (rest : List Char) :
    readQuoted (c :: rest) = (readQuoted rest).map (fun read => (c :: read.1, read.2)) := by
  rw [readQuoted]
  · intro other heq
    exact absurd heq hc
  · exact hc

theorem readQuoted_escapeQuotes (text : List Char) :
    readQuoted (escapeQuotes text ++ ['\'']) = some (text, []) := by
  induction text with
  | nil => rfl
  | cons c text ih =>
      rw [escapeQuotes_cons]
      by_cases hc : c = '\''
      · rw [if_pos hc, hc, List.cons_append, List.cons_append, List.cons_append, List.cons_append,
          List.nil_append, readQuoted, ih]
        rfl
      · rw [if_neg hc, List.cons_append, List.cons_append, List.nil_append, readQuoted_cons hc, ih]
        rfl

/-- The spaces after the commas belong to the items. -/
theorem intercalate_comma (item : List Char) (items : List (List Char)) :
    [',', ' '].intercalate (item :: items) = [','].intercalate (item :: items.map (' ' :: ·)) := by
  induction items generalizing item with
  | nil => rfl
  | cons next items ih =>
      rw [List.map_cons, List.intercalate_cons_cons, List.intercalate_cons_cons, ih]
      cases items with
      | nil => simp
      | cons => simp [List.intercalate_cons_cons]

theorem readItem_of_isPlain {item : List Char} (h : IsPlain item) :
    readItem item = some (.scalar (String.ofList item)) := by
  obtain ⟨c, rest, rfl, hc⟩ := h.head
  have hspace : c ≠ ' ' := by
    rintro rfl
    exact absurd hc (by decide)
  rw [readItem, List.dropWhile_cons_of_neg (by simpa using hspace)]
  exact h.readPlain

theorem readItem_space (item : List Char) : readItem (' ' :: item) = readItem item := by
  rw [readItem, List.dropWhile_cons_of_pos (by decide)]
  rfl

theorem mapM_readItem {items : List (List Char)} (h : ∀ item ∈ items, IsPlain item) :
    (items.map (' ' :: ·)).mapM readItem =
      some (items.map (fun item => .scalar (String.ofList item))) := by
  induction items with
  | nil => rfl
  | cons item items ih =>
      rw [List.map_cons, List.mapM_cons, readItem_space,
        readItem_of_isPlain (h item List.mem_cons_self),
        ih (fun other hother => h other (List.mem_cons_of_mem item hother))]
      rfl

theorem readValue_flow {items : List (List Char)} (hne : items ≠ [])
    (h : ∀ item ∈ items, IsPlain item) :
    readValue (Value.flow items).text = some (Value.flow items).node := by
  obtain ⟨item, items, rfl⟩ := List.exists_cons_of_ne_nil hne
  have hcomma : ∀ piece ∈ item :: items.map (' ' :: ·), ',' ∉ piece := by
    intro piece hpiece
    rcases List.mem_cons.mp hpiece with rfl | hpiece
    · exact (h piece List.mem_cons_self).notMem (by decide)
    · obtain ⟨other, hother, rfl⟩ := List.mem_map.mp hpiece
      have hnot := (h other (List.mem_cons_of_mem item hother)).notMem (c := ',') (by decide)
      simp [hnot]
  have hsplit := List.splitOn_intercalate ',' hcomma (List.cons_ne_nil _ _)
  rw [← intercalate_comma] at hsplit
  rw [Value.text, readValue, List.getLast?_concat, if_pos rfl, List.dropLast_concat, hsplit,
    List.mapM_cons, readItem_of_isPlain (h item List.mem_cons_self),
    mapM_readItem (fun other hother => h other (List.mem_cons_of_mem item hother))]
  rfl

theorem readValue_text {value : Value} (h : value.Valid) :
    readValue value.text = some value.node := by
  cases value with
  | plain text =>
      have hplain : IsPlain text := h
      have hquote := hplain.head_ne (c := '\'') (by decide)
      have hbracket := hplain.head_ne (c := '[') (by decide)
      rw [Value.text, readValue]
      · exact hplain.readPlain
      · rintro rest rfl
        exact hquote rfl
      · rintro rest rfl
        exact hbracket rfl
  | quoted text => rw [Value.text, readValue, readQuoted_escapeQuotes]; rfl
  | flow items => exact readValue_flow h.1 h.2

-- ============================================================================
-- Lines read back
-- ============================================================================

theorem takeWhile_indent (indent : Nat) {content : List Char} (h : content.head? ≠ some ' ') :
    (List.replicate indent ' ' ++ content).takeWhile (· = ' ') = List.replicate indent ' ' := by
  have hspaces : ∀ c ∈ List.replicate indent ' ', decide (c = ' ') = true :=
    fun c hc => decide_eq_true (List.eq_of_mem_replicate hc)
  rw [List.takeWhile_append_of_pos hspaces]
  cases content with
  | nil => simp
  | cons c rest =>
      have hc : c ≠ ' ' := fun heq => h (congrArg some heq)
      rw [List.takeWhile_cons_of_neg (by simpa using hc), List.append_nil]

theorem dropWhile_indent (indent : Nat) {content : List Char} (h : content.head? ≠ some ' ') :
    (List.replicate indent ' ' ++ content).dropWhile (· = ' ') = content := by
  have hspaces : ∀ c ∈ List.replicate indent ' ', decide (c = ' ') = true :=
    fun c hc => decide_eq_true (List.eq_of_mem_replicate hc)
  rw [List.dropWhile_append_of_pos hspaces]
  cases content with
  | nil => rfl
  | cons c rest =>
      have hc : c ≠ ' ' := fun heq => h (congrArg some heq)
      rw [List.dropWhile_cons_of_neg (by simpa using hc)]

theorem readLine_comment (indent : Nat) (text : List Char) (below : Loose) :
    readLine (List.replicate indent ' ' ++ '#' :: text) below = some below := by
  have hhead : ('#' :: text).head? ≠ some ' ' := by simp
  rw [readLine, dropWhile_indent indent hhead]
  exact if_pos (Or.inr rfl)

theorem readEntry_key {key : List Char} (h : IsPlain key) (rest : List Char) :
    (key ++ ':' :: rest).takeWhile isPlainChar = key ∧
      (key ++ ':' :: rest).dropWhile isPlainChar = ':' :: rest := by
  constructor
  · rw [List.takeWhile_append_of_pos h.chars, List.takeWhile_cons_of_neg (by decide),
      List.append_nil]
  · rw [List.dropWhile_append_of_pos h.chars, List.dropWhile_cons_of_neg (by decide)]

theorem readEntry_value {key : List Char} (h : IsPlain key) {value : Value} (hv : value.Valid) :
    readEntry (key ++ ':' :: ' ' :: value.text) =
      some (String.ofList key, some value.node) := by
  obtain ⟨htake, hdrop⟩ := readEntry_key h (' ' :: value.text)
  rw [readEntry, htake, hdrop, if_pos h]
  change (readValue value.text).map _ = _
  rw [readValue_text hv]
  rfl

theorem readEntry_bare {key : List Char} (h : IsPlain key) :
    readEntry (key ++ [':']) = some (String.ofList key, none) := by
  obtain ⟨htake, hdrop⟩ := readEntry_key h []
  rw [readEntry, htake, hdrop, if_pos h]
  rfl

/-- A line that starts with a key is neither blank nor a comment. -/
theorem head_key {key rest : List Char} (h : IsPlain key) {c : Char}
    (hc : isPlainChar c = false) : (key ++ rest).head? ≠ some c := by
  rw [List.head?_append_of_ne_nil key h.ne_nil]
  exact h.head_ne hc

theorem readLine_key {key rest : List Char} (h : IsPlain key) (indent : Nat) (below : Loose) :
    readLine (List.replicate indent ' ' ++ (key ++ rest)) below =
      match readEntry (key ++ rest) with
      | none => none
      | some (key, some node) =>
          if below.Within indent then some ((indent, key, node) :: below) else none
      | some (key, none) =>
          if ((below.takeWhile (fun e => indent < e.1)).map Prod.fst).Pairwise Eq then
            some ((indent, key,
                mapNode ((below.takeWhile (fun e => indent < e.1)).map Prod.snd)) ::
              below.dropWhile (fun e => indent < e.1))
          else none := by
  have hspace : (key ++ rest).head? ≠ some ' ' := head_key h (by decide)
  have hcontent : ¬ (key ++ rest = [] ∨ (key ++ rest).head? = some '#') := by
    rintro (hnil | hhash)
    · exact h.ne_nil (List.append_eq_nil_iff.mp hnil).1
    · exact head_key h (by decide) hhash
  rw [readLine, takeWhile_indent indent hspace, dropWhile_indent indent hspace,
    List.length_replicate, if_neg hcontent]

theorem readLine_entry {key : List Char} (h : IsPlain key) {value : Value} (hv : value.Valid)
    {indent : Nat} {below : Loose} (hbelow : below.Within indent) :
    readLine (List.replicate indent ' ' ++ (key ++ ':' :: ' ' :: value.text)) below =
      some ((indent, String.ofList key, value.node) :: below) := by
  rw [readLine_key h, readEntry_value h hv]
  exact if_pos hbelow

/-- The entries of a mapping, all in one column. -/
def placed (indent : Nat) (entries : List (String × Node)) : Loose :=
  entries.map (fun e => (indent, e))

theorem placed_within {indent : Nat} {entries : List (String × Node)} {below : Loose}
    (h : below.Within indent) : Loose.Within (placed indent entries ++ below) indent := by
  cases entries with
  | nil => exact h
  | cons e entries =>
      intro f hf
      cases hf
      exact Nat.le_refl indent

theorem takeWhile_placed {indent column : Nat} (hlt : indent < column)
    (entries : List (String × Node)) {below : Loose} (h : below.Within indent) :
    (placed column entries ++ below).takeWhile (fun e => indent < e.1) =
        placed column entries ∧
      (placed column entries ++ below).dropWhile (fun e => indent < e.1) = below := by
  have hdeep : ∀ e ∈ placed column entries, decide (indent < e.1) = true := by
    intro e he
    obtain ⟨entry, -, rfl⟩ := List.mem_map.mp he
    exact decide_eq_true hlt
  rw [List.takeWhile_append_of_pos hdeep, List.dropWhile_append_of_pos hdeep]
  cases below with
  | nil => exact ⟨List.append_nil _, rfl⟩
  | cons e rest =>
      have hle : ¬ indent < e.1 := Nat.not_lt.mpr (h e rfl)
      simp [hle]

theorem readLine_nested {key : List Char} (h : IsPlain key) {indent : Nat} {below : Loose}
    (entries : List (String × Node)) (hbelow : below.Within indent) :
    readLine (List.replicate indent ' ' ++ (key ++ [':'])) (placed (indent + 2) entries ++ below) =
      some ((indent, String.ofList key, mapNode entries) :: below) := by
  obtain ⟨htake, hdrop⟩ :=
    takeWhile_placed (show indent < indent + 2 by omega) entries hbelow
  have hcolumns : (placed (indent + 2) entries).map Prod.fst =
      List.replicate entries.length (indent + 2) := by
    simp only [placed, List.map_map, Function.comp_def, List.map_const']
  have hnodes : (placed (indent + 2) entries).map Prod.snd = entries := by
    simp [placed, Function.comp_def]
  rw [readLine_key h, readEntry_bare h]
  simp only [htake, hdrop, hcolumns, hnodes]
  exact if_pos (List.pairwise_replicate.mpr (Or.inr rfl))

-- ============================================================================
-- Documents read back
-- ============================================================================

theorem readLines_cons (line : List Char) (lines : List (List Char)) :
    readLines (line :: lines) = (readLines lines).bind (readLine line) := rfl

/-- The lines of a mapping give its entries, above what the lines below it give. -/
theorem readLines_render (b : Block) (hb : b.Valid) (indent : Nat) {lines : List (List Char)}
    {below : Loose} (hlines : readLines lines = some below) (hbelow : below.Within indent) :
    readLines (b.render indent ++ lines) = some (placed indent b.entries ++ below) := by
  induction b generalizing indent lines below with
  | done => exact hlines
  | blank rest ih =>
      rw [Block.render, List.cons_append, readLines_cons, ih hb indent hlines hbelow]
      rfl
  | comment text rest ih =>
      rw [Block.render, List.cons_append, readLines_cons, ih hb.2 indent hlines hbelow]
      exact readLine_comment indent text _
  | entry key value rest ih =>
      obtain ⟨hkey, hvalue, hrest⟩ := hb
      rw [Block.render, List.cons_append, readLines_cons, ih hrest indent hlines hbelow]
      exact readLine_entry hkey hvalue (placed_within hbelow)
  | nested key body rest ihbody ihrest =>
      obtain ⟨hkey, hbody, hrest⟩ := hb
      -- The lines after the mapping are read first; their entries stand no deeper.
      have hafter := ihrest hrest indent hlines hbelow
      have hwithin : Loose.Within (placed indent rest.entries ++ below) indent :=
        placed_within hbelow
      have hdeeper : Loose.Within (placed indent rest.entries ++ below) (indent + 2) := by
        intro e he
        have hle := hwithin e he
        omega
      rw [Block.render, List.cons_append, List.append_assoc, readLines_cons,
        ihbody hbody (indent + 2) hafter hdeeper]
      exact readLine_nested hkey body.entries hwithin

theorem mem_intercalate {sep : List Char} {items : List (List Char)} {c : Char}
    (h : c ∈ sep.intercalate items) : c ∈ sep ∨ ∃ item ∈ items, c ∈ item := by
  induction items with
  | nil => exact absurd h List.not_mem_nil
  | cons item items ih =>
      cases items with
      | nil =>
          rw [List.intercalate_singleton] at h
          exact Or.inr ⟨item, List.mem_cons_self, h⟩
      | cons next items =>
          rw [List.intercalate_cons_cons, List.mem_append, List.mem_append] at h
          rcases h with (h | h) | h
          · exact Or.inr ⟨item, List.mem_cons_self, h⟩
          · exact Or.inl h
          · rcases ih h with hsep | ⟨other, hother, hin⟩
            · exact Or.inl hsep
            · exact Or.inr ⟨other, List.mem_cons_of_mem item hother, hin⟩

theorem newline_notMem_value {value : Value} (h : value.Valid) : '\n' ∉ value.text := by
  have hnewline : isPrintable '\n' = false := by decide
  cases value with
  | plain text => exact IsPlain.notMem h (by decide)
  | quoted text =>
      intro hmem
      rw [Value.text, List.mem_cons, List.mem_append, escapeQuotes, List.mem_flatMap] at hmem
      rcases hmem with hquote | ⟨c, hc, hpiece⟩ | hquote
      · exact absurd hquote (by decide)
      · have hprint := h c hc
        split at hpiece
        next => exact absurd hpiece (by decide)
        next =>
            rw [List.mem_singleton] at hpiece
            rw [← hpiece, hnewline] at hprint
            exact absurd hprint (by decide)
      · exact absurd hquote (by decide)
  | flow items =>
      intro hmem
      rw [Value.text, List.mem_cons, List.mem_append] at hmem
      rcases hmem with hbracket | hmem | hbracket
      · exact absurd hbracket (by decide)
      · rcases mem_intercalate hmem with hsep | ⟨piece, hpiece, hin⟩
        · exact absurd hsep (by decide)
        · exact (h.2 piece hpiece).notMem (by decide) hin
      · exact absurd hbracket (by decide)

theorem newline_notMem_indent (indent : Nat) : '\n' ∉ List.replicate indent ' ' := by
  intro hmem
  exact absurd (List.eq_of_mem_replicate hmem) (by decide)

theorem newline_notMem_line {item : Item} (h : item.Valid) (indent : Nat) :
    '\n' ∉ item.line indent := by
  have hspaces := newline_notMem_indent indent
  cases item with
  | blank => exact List.not_mem_nil
  | comment text =>
      have htext : '\n' ∉ text := fun hmem => absurd (h _ hmem) (by decide)
      simp [Item.line, hspaces, htext]
  | entry key value =>
      have hvalue := newline_notMem_value h.2
      have hkey := h.1.notMem (c := '\n') (by decide)
      simp [Item.line, hspaces, hvalue, hkey]

theorem newline_notMem_render (b : Block) (hb : b.Valid) (indent : Nat) :
    ∀ line ∈ b.render indent, '\n' ∉ line := by
  induction b generalizing indent with
  | done => exact fun line hline => absurd hline List.not_mem_nil
  | blank rest ih =>
      exact List.forall_mem_cons.mpr ⟨List.not_mem_nil, ih hb indent⟩
  | comment text rest ih =>
      exact List.forall_mem_cons.mpr
        ⟨newline_notMem_line (show (Item.comment text).Valid from hb.1) indent, ih hb.2 indent⟩
  | entry key value rest ih =>
      obtain ⟨hkey, hvalue, hrest⟩ := hb
      exact List.forall_mem_cons.mpr
        ⟨newline_notMem_line (show (Item.entry key value).Valid from ⟨hkey, hvalue⟩) indent, ih hrest indent⟩
  | nested key body rest ihbody ihrest =>
      obtain ⟨hkey, hbody, hrest⟩ := hb
      refine List.forall_mem_cons.mpr ⟨?_, List.forall_mem_append.mpr
        ⟨ihbody hbody (indent + 2), ihrest hrest indent⟩⟩
      have hkeyText := hkey.notMem (c := '\n') (by decide)
      simp [keyLine, hkeyText]

/-- Reading the text of a document gives its tree. -/
theorem read_text {doc : Block} (h : doc.Valid) : read doc.text = some doc.node := by
  have hlines : ∀ line ∈ doc.render 0 ++ [[]], '\n' ∉ line := by
    intro line hline
    rcases List.mem_append.mp hline with hline | hline
    · exact newline_notMem_render doc h 0 line hline
    · rw [List.mem_singleton.mp hline]
      exact List.not_mem_nil
  have hsplit : doc.text.splitOn '\n' = doc.render 0 ++ [[]] :=
    List.splitOn_intercalate '\n' hlines (by simp)
  have hempty : Loose.Within [] 0 := fun e he => absurd he (by simp)
  have hlast : readLines [[]] = some [] := rfl
  have hread := readLines_render doc h 0 hlast hempty
  rw [List.append_nil] at hread
  have hcolumns : ∀ e ∈ placed 0 doc.entries, e.1 = 0 := by
    intro e he
    obtain ⟨entry, -, rfl⟩ := List.mem_map.mp he
    rfl
  have hnodes : (placed 0 doc.entries).map Prod.snd = doc.entries := by
    simp [placed, Function.comp_def]
  rw [read, hsplit, hread, Option.bind_eq_bind, Option.bind_some, if_pos hcolumns, hnodes]
  rfl

end DmSimulator.Yaml
