/-
  DmSimulator.Sim.DocumentedYaml

  What the loader relies on of yaml-cpp: it reads block documents, and converts the
  text of a number, a boolean or a string to its value.  A reader of block documents
  with decimal conversions behaves so.
-/
import DmSimulator.Lib.DecimalText
import DmSimulator.Sim.ConfigLoader

namespace DmSimulator

open Yaml

namespace YamlCpp

/-- The documented behaviour.  A double is its exact value, as long as it is finite. -/
structure Documented (yaml : YamlCpp) : Prop where
  load : ∀ doc : Block, doc.Valid → yaml.load (String.ofList doc.text) = .ok doc.node
  asU32 : ∀ n : Nat, n < 2 ^ 32 → yaml.asU32 (.scalar (toString n)) = .ok n
  asU64 : ∀ n : Nat, n < 2 ^ 64 → yaml.asU64 (.scalar (toString n)) = .ok n
  asDouble : ∀ (text : List Char) (value : Rat), Decimal.readNumber text = some value →
    |value| ≤ 10 ^ 308 → yaml.asDouble (.scalar (String.ofList text)) = .ok (some value)
  asBool : ∀ value : Bool, yaml.asBool (.scalar (toString value)) = .ok value
  asString : ∀ text : String, yaml.asString (.scalar text) = .ok text

/-- The conversion of the text of a scalar. -/
def ofScalar {T : Type} (read : List Char → Option T) : Node → Except String T
  | .scalar text =>
      match read text.toList with
      | some value => return value
      | none => throw "bad conversion"
  | _ => throw "bad conversion"

/-- A number that fits the width. -/
def readUnsigned (width : Nat) (text : List Char) : Option Nat :=
  if text ≠ [] ∧ text.all Char.isDigit = true ∧ Nat.ofDigitChars 10 text 0 < 2 ^ width then
    some (Nat.ofDigitChars 10 text 0)
  else none

/-- A reader of block documents. -/
def blockReader : YamlCpp where
  load contents :=
    match read contents.toList with
    | some node => return node
    | none => throw "not a block document"
  badSubscript _ key := "operator[] call on a scalar (key: \"" ++ key ++ "\")"
  asU32 := ofScalar (readUnsigned 32)
  asU64 := ofScalar (readUnsigned 64)
  asDouble := ofScalar (fun text => (Decimal.readNumber text).map some)
  asBool := ofScalar (fun text =>
    if text = "true".toList then some true
    else if text = "false".toList then some false
    else none)
  asString := ofScalar (fun text => some (String.ofList text))

theorem readUnsigned_toString {width n : Nat} (h : n < 2 ^ width) :
    ofScalar (readUnsigned width) (.scalar (toString n)) = .ok n := by
  have hdigits : (toString n).toList = Nat.toDigits 10 n := Nat.toList_repr
  have hvalue : Nat.ofDigitChars 10 (Nat.toDigits 10 n) 0 = n := Nat.ofDigitChars_ten_toDigits
  have hread : readUnsigned width (Nat.toDigits 10 n) = some n := by
    rw [readUnsigned, hvalue, if_pos ⟨Decimal.toDigits_ne_nil n,
      List.all_eq_true.mpr (Decimal.isDigit_toDigits n), h⟩]
  simp only [ofScalar, hdigits, hread]
  rfl

theorem blockReader_documented : blockReader.Documented where
  load doc hdoc := by
    simp only [blockReader, String.toList_ofList, read_text hdoc]
    rfl
  asU32 _ hn := readUnsigned_toString hn
  asU64 _ hn := readUnsigned_toString hn
  asDouble text value hread _ := by
    simp only [blockReader, ofScalar, String.toList_ofList, hread]
    rfl
  asBool value := by cases value <;> rfl
  asString text := by
    simp only [blockReader, ofScalar, String.ofList_toList]
    rfl

-- ============================================================================
-- Fields that are given
-- ============================================================================

variable {yaml : YamlCpp} {T : Type} {entries : List (String × Node)} {key : String}
  {node : Node} {value : T}

theorem requiredChild_eq (context : String) (hlookup : entries.lookup key = some node) :
    yaml.requiredChild (.map entries) key context = .ok node := by
  simp only [requiredChild, child, hlookup]
  rfl

theorem requiredAs_eq (context : String) {read : Node → Except String T}
    (hlookup : entries.lookup key = some node) (hread : read node = .ok value) :
    yaml.requiredAs read (.map entries) key context = .ok value := by
  rw [requiredAs, requiredChild_eq context hlookup]
  simp only [bind, Except.bind, hread]
  rfl

theorem optionalAs_eq {read : Node → Except LoadError T} {current : T}
    (hlookup : entries.lookup key = some node) (hread : read node = .ok value) :
    yaml.optionalAs read (.map entries) key current = .ok value := by
  simp only [optionalAs, child, hlookup]
  exact hread

theorem optionalAs_absent {read : Node → Except LoadError T} {current : T}
    (hlookup : entries.lookup key = none) :
    yaml.optionalAs read (.map entries) key current = .ok current := by
  simp only [optionalAs, child, hlookup]
  rfl

theorem optionalChecked_eq {S : Type} {read : Node → Except String S} {accept : S → Option T}
    {expected context : String} {current : T} {given : S} (hlookup : entries.lookup key = some node)
    (hread : read node = .ok given) (haccept : accept given = some value) :
    yaml.optionalChecked read accept expected (.map entries) key context current =
      .ok value := by
  refine optionalAs_eq hlookup ?_
  simp only [convert, hread, bind, Except.bind, pure, Except.pure, haccept]

variable (hyaml : yaml.Documented)

include hyaml

/-- What a written document loads as. -/
theorem Documented.loadExperimentConfig_eq {doc : Block} (hdoc : doc.Valid) (path : String) :
    yaml.loadExperimentConfig path (String.ofList doc.text) =
      yaml.parseExperimentConfig doc.node := by
  unfold loadExperimentConfig
  rw [hyaml.load doc hdoc]

theorem Documented.requiredU64 (context : String) {n : Nat} (hn : n < 2 ^ 64)
    (hlookup : entries.lookup key = some (.scalar (toString n))) :
    yaml.requiredAs yaml.asU64 (.map entries) key context = .ok n :=
  requiredAs_eq context hlookup (hyaml.asU64 n hn)

theorem Documented.requiredU32 (context : String) {n : Nat} (hn : n < 2 ^ 32)
    (hlookup : entries.lookup key = some (.scalar (toString n))) :
    yaml.requiredAs yaml.asU32 (.map entries) key context = .ok n :=
  requiredAs_eq context hlookup (hyaml.asU32 n hn)

theorem Documented.optionalU64 (current : Nat) {n : Nat} (hn : n < 2 ^ 64)
    (hlookup : entries.lookup key = some (.scalar (toString n))) :
    yaml.optionalAs (convert yaml.asU64) (.map entries) key current = .ok n := by
  refine optionalAs_eq hlookup ?_
  simp only [convert, hyaml.asU64 n hn]
  rfl

theorem Documented.positiveU64 (context : String) (current : Nat) {n : Nat} (hn : n < 2 ^ 64)
    (hpos : 0 < n)
    (hlookup : entries.lookup key = some (.scalar (toString n))) :
    yaml.optionalPositiveU64 (.map entries) key context current = .ok n := by
  refine optionalChecked_eq hlookup (hyaml.asU64 n hn) ?_
  exact Option.guard_eq_some_iff.mpr ⟨rfl, by simpa using hpos.ne'⟩

theorem Documented.nonnegativeDouble (context : String) (current : Rat) {text : List Char}
    {x : Rat}
    (hread : Decimal.readNumber text = some x) (hnonneg : 0 ≤ x) (hle : x ≤ 10 ^ 308)
    (hlookup : entries.lookup key = some (.scalar (String.ofList text))) :
    yaml.optionalNonnegativeDouble (.map entries) key context current = .ok x := by
  refine optionalChecked_eq hlookup
    (hyaml.asDouble text x hread (by rwa [abs_of_nonneg hnonneg])) ?_
  simp [hnonneg]

theorem Documented.requiredDouble (context : String) {text : List Char} {x : Rat}
    (hread : Decimal.readNumber text = some x) (hle : |x| ≤ 10 ^ 308)
    (hlookup : entries.lookup key = some (.scalar (String.ofList text))) :
    yaml.requiredAs yaml.asDouble (.map entries) key context = .ok (some x) :=
  requiredAs_eq context hlookup (hyaml.asDouble text x hread hle)

theorem Documented.hotObjectChannelCount (current : Nat) {n channels : Nat} (hn : n < 2 ^ 64)
    (hle : n ≤ channels) (hlookup : entries.lookup key = some (.scalar (toString n))) :
    yaml.optionalAs (yaml.parseHotObjectChannelCount channels) (.map entries) key current =
      .ok n := by
  refine optionalAs_eq hlookup ?_
  simp only [parseHotObjectChannelCount, convert, hyaml.asU64 n hn, bind, Except.bind, pure,
    Except.pure, if_neg (Nat.not_lt.mpr hle)]

theorem Documented.probability (context : String) (current : Rat) {text : List Char} {x : Rat}
    (hread : Decimal.readNumber text = some x) (hnonneg : 0 ≤ x) (hle : x ≤ 1)
    (hlookup : entries.lookup key = some (.scalar (String.ofList text))) :
    yaml.optionalProbability (.map entries) key context current = .ok x := by
  have hbound : |x| ≤ 10 ^ 308 := by
    rw [abs_of_nonneg hnonneg]
    exact hle.trans (one_le_pow₀ (by norm_num))
  refine optionalChecked_eq hlookup (hyaml.asDouble text x hread hbound) ?_
  simp [hnonneg, hle]

theorem Documented.optionalBool (current : Bool) {given : Bool}
    (hlookup : entries.lookup key = some (.scalar (toString given))) :
    yaml.optionalAs (convert yaml.asBool) (.map entries) key current = .ok given := by
  refine optionalAs_eq hlookup ?_
  simp only [convert, hyaml.asBool given]
  rfl

theorem Documented.requiredText (context : String) {text : String}
    (hlookup : entries.lookup key = some (.scalar text)) :
    yaml.requiredAs yaml.asString (.map entries) key context = .ok text :=
  requiredAs_eq context hlookup (hyaml.asString text)

theorem Documented.requiredName (context : String) {parse : String → Except LoadError T}
    {text : String}
    (hlookup : entries.lookup key = some (.scalar text)) (hparse : parse text = .ok value) :
    yaml.requiredNamed parse (.map entries) key context = .ok value := by
  rw [requiredNamed, hyaml.requiredText context hlookup]
  exact hparse

theorem Documented.optionalName (current : T) {parse : String → Except LoadError T}
    {text : String} (hlookup : entries.lookup key = some (.scalar text))
    (hparse : parse text = .ok value) :
    yaml.optionalNamed parse (.map entries) key current = .ok value := by
  refine optionalAs_eq hlookup ?_
  simp only [convert, hyaml.asString, bind, Except.bind, pure, Except.pure]
  exact hparse

theorem Documented.computeNodeIds {nodeIds : List Nat} (hids : ∀ nodeId ∈ nodeIds, nodeId < 2 ^ 32)
    (hlookup : entries.lookup "compute_node_ids" =
      some (.sequence (nodeIds.map (fun nodeId => .scalar (toString nodeId))))) :
    yaml.parseComputeNodeIds (.map entries) = .ok nodeIds := by
  rw [parseComputeNodeIds, requiredChild_eq _ hlookup]
  simp only [bind, Except.bind]
  clear hlookup
  induction nodeIds with
  | nil => rfl
  | cons nodeId nodeIds ih =>
      have hrest := ih (fun other hother => hids other (List.mem_cons_of_mem nodeId hother))
      rw [List.map_cons, List.mapM_cons, convert,
        hyaml.asU32 nodeId (hids nodeId List.mem_cons_self), hrest]
      rfl

end YamlCpp

end DmSimulator
