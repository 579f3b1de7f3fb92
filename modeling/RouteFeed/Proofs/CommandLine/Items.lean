import Mathlib.Data.List.Induction
import RouteFeed.Proofs.CommandLine.Selection

/-! Command lines of items: options with their values in arguments of their own, and letters without
values. However the items are mixed, the values of each option are read in order, all of them or the
last one, as the option has it. -/
namespace RouteFeed.CommandLine

inductive Item where
  | given (s : Switch) (text : String)
  | flag (s : Switch)
  deriving DecidableEq

namespace Item

def argv : Item → List String
  | given s text => [s.label, text]
  | flag s => [s.label]

/-- An option has a value if it takes one, and the value does not look like an option. -/
def Proper : Item → Prop
  | given s text => s.takesValue = true ∧ text.toList.head? ≠ some '-'
  | flag s => s.takesValue = false ∧ s ≠ .help

def Parses : Item → Prop
  | given .window text => (TimeWindow.ofText? text.toList).isSome
  | given .period text => (Number.readInteger text.toList).isOk
  | _ => True

instance : DecidablePred Proper
  | given s text => inferInstanceAs (Decidable (s.takesValue = true ∧ text.toList.head? ≠ some '-'))
  | flag s => inferInstanceAs (Decidable (s.takesValue = false ∧ s ≠ .help))

instance : DecidablePred Parses
  | given .window text => inferInstanceAs (Decidable ((TimeWindow.ofText? text.toList).isSome = true))
  | given .period text => inferInstanceAs (Decidable ((Number.readInteger text.toList).isOk = true))
  | given .interface _ | given .option _ | given .project _ | given .collector _ | given .type _
  | given .blocking _ | given .records _ | given .bgpdump _ | given .elements _ | given .help _
  | flag _ => inferInstanceAs (Decidable True)

def pieces : Item → List Piece
  | given s text => [(s.label.toList, .switch s none), (text.toList, .plain)]
  | flag s => [(s.label.toList, .switch s none)]

def note (a : Arguments) : Item → Except Failure Arguments
  | given s text => a.note s (.value text.toList)
  | flag s => .ok (a.set s)

def value? (s : Switch) : Item → Option String
  | given t text => if t = s then some text else none
  | flag _ => none

end Item

def argvOf (items : List Item) : List String := items.flatMap Item.argv

def valuesOf (s : Switch) (items : List Item) : List String := items.filterMap (Item.value? s)

theorem valuesOf_concat (s : Switch) (items : List Item) (item : Item) :
    valuesOf s (items ++ [item]) = valuesOf s items ++ (item.value? s).toList := by
  unfold valuesOf
  rw [List.filterMap_append]
  cases h : item.value? s <;> simp [h]

def windowsOf (items : List Item) : List TimeWindow :=
  (valuesOf .window items).filterMap fun text => TimeWindow.ofText? text.toList

def periodsOf (items : List Item) : List Int :=
  (valuesOf .period items).filterMap fun text => (Number.readInteger text.toList).toOption

/-- What the items come to: the last value of some options, and all values of the others. -/
def argumentsOf (items : List Item) : Arguments where
  interface := (valuesOf .interface items).getLast?.map .value
  options := (valuesOf .option items).map .value
  projects := (valuesOf .project items).map .value
  collectors := (valuesOf .collector items).map .value
  types := (valuesOf .type items).map .value
  windows := (windowsOf items).map .value
  period := .value ((periodsOf items).getLast?.getD 0)
  blocking := items.contains (.flag .blocking)
  records := items.contains (.flag .records)
  bgpdump := items.contains (.flag .bgpdump)
  elements := items.contains (.flag .elements)

theorem classify_label {s : Switch} (h : s ≠ .help) : classify s.label.toList = .switch s none := by
  cases s <;> first | rfl | exact absurd rfl h

theorem label_ne_endMark (s : Switch) : (s.label.toList == ['-', '-']) = false := by
  cases s <;> rfl

theorem classify_plain {cs : List Char} (h : cs.head? ≠ some '-') : classify cs = .plain := by
  cases cs with
  | nil => rfl
  | cons c cs =>
    have other : c ≠ '-' := fun same => h (congrArg some same)
    unfold classify
    split
    · next eq => exact absurd (List.cons.inj eq).1 other
    · rfl

theorem classifyAll_items {items : List Item} (proper : ∀ item ∈ items, item.Proper) :
    classifyAll ((argvOf items).map String.toList) = items.flatMap Item.pieces := by
  induction items with
  | nil => rfl
  | cons item items ih =>
    have rest := ih fun other member => proper other (List.mem_cons_of_mem _ member)
    have here := proper item List.mem_cons_self
    cases item with
    | flag s =>
      simp only [argvOf, List.flatMap_cons, Item.argv, Item.pieces, List.map_cons,
        List.singleton_append] at rest ⊢
      rw [classifyAll, label_ne_endMark, classify_label here.2]
      simp only [Bool.false_eq_true, if_false, rest]
    | given s text =>
      obtain ⟨takes, plain⟩ := here
      have other : s ≠ .help := by
        rintro rfl
        cases takes
      have mark : (text.toList == ['-', '-']) = false := by
        refine beq_false_of_ne fun same => plain ?_
        rw [same]
        rfl
      simp only [argvOf, List.flatMap_cons, Item.argv, Item.pieces, List.map_cons, List.cons_append,
        List.nil_append] at rest ⊢
      rw [classifyAll, label_ne_endMark, classify_label other]
      simp only [Bool.false_eq_true, if_false]
      rw [classifyAll, mark, classify_plain plain]
      simp only [Bool.false_eq_true, if_false, rest]

theorem readPieces_items {items : List Item} (proper : ∀ item ∈ items, item.Proper)
    (a : Arguments) (extras : List (List Char)) :
    readPieces a extras (items.flatMap Item.pieces) =
      (items.foldlM Item.note a).map fun a => (a, extras) := by
  induction items generalizing a with
  | nil => rfl
  | cons item items ih =>
    have rest := ih fun other member => proper other (List.mem_cons_of_mem _ member)
    have here := proper item List.mem_cons_self
    cases item with
    | flag s =>
      have applied (following : Option Piece) : a.apply s none following = .ok (a.set s, false) := by
        unfold Arguments.apply Bundle.of
        rw [here.1]
        rfl
      simp only [List.flatMap_cons, Item.pieces, List.singleton_append, readPieces, applied, rest,
        List.foldlM_cons, Item.note]
      rfl
    | given s text =>
      have applied : a.apply s none (some (text.toList, .plain)) =
          (a.note s (.value text.toList)).map fun a => (a, true) := by
        unfold Arguments.apply Bundle.of
        rw [here.1]
        simp only [bind, Except.bind, if_true, List.foldl_nil]
        cases a.note s (.value text.toList) <;> rfl
      simp only [List.flatMap_cons, Item.pieces, List.cons_append, List.nil_append, readPieces,
        List.head?_cons, applied, List.foldlM_cons, Item.note]
      cases a.note s (.value text.toList) with
      | error f => rfl
      | ok next => exact rest next

theorem exists_of_isOk {ε α : Type} {x : Except ε α} (h : x.isOk = true) : ∃ a, x = .ok a := by
  cases x with
  | error f => cases h
  | ok a => exact ⟨a, rfl⟩

theorem note_argumentsOf (items : List Item) {item : Item} (proper : item.Proper)
    (parses : item.Parses) :
    item.note (argumentsOf items) = .ok (argumentsOf (items ++ [item])) := by
  cases item with
  | flag s =>
    obtain ⟨bare, plain⟩ := proper
    cases s with
    | blocking | records | bgpdump | elements =>
      simp [Item.note, Arguments.set, argumentsOf, windowsOf, periodsOf, valuesOf_concat, Item.value?]
    | help => exact absurd rfl plain
    | _ => cases bare
  | given s text =>
    cases s with
    | interface | option | project | collector | type =>
      simp [Item.note, Arguments.note, argumentsOf, windowsOf, periodsOf, valuesOf_concat, Item.value?,
        convert]
      rfl
    | window =>
      obtain ⟨w, parsed⟩ := Option.isSome_iff_exists.mp parses
      have read : windowOf .window text = .ok w := by
        unfold windowOf TimeWindow.parse
        rw [parsed]
        rfl
      simp [Item.note, Arguments.note, argumentsOf, windowsOf, periodsOf, valuesOf_concat, Item.value?,
        convert, read, parsed]
      rfl
    | period =>
      obtain ⟨n, parsed⟩ := exists_of_isOk (x := Number.readInteger text.toList) parses
      have read : integerOf .period text = .ok n := by
        unfold integerOf
        rw [parsed]
      simp [Item.note, Arguments.note, argumentsOf, windowsOf, periodsOf, valuesOf_concat, Item.value?,
        convert, read, parsed]
      rfl
    | _ => cases proper.1

theorem foldlM_note {items : List Item} (proper : ∀ item ∈ items, item.Proper)
    (parses : ∀ item ∈ items, item.Parses) :
    items.foldlM Item.note {} = .ok (argumentsOf items) := by
  induction items using List.reverseRecOn with
  | nil => rfl
  | append_singleton items item ih =>
    have before := ih (fun other member => proper other (List.mem_append_left _ member))
      fun other member => parses other (List.mem_append_left _ member)
    have noted := note_argumentsOf items (proper item (by simp)) (parses item (by simp))
    rw [List.foldlM_append, before]
    change (item.note (argumentsOf items) >>= fun a => .ok a) = _
    rw [noted]
    rfl

theorem parse_argvOf {items : List Item} (proper : ∀ item ∈ items, item.Proper)
    (parses : ∀ item ∈ items, item.Parses) :
    Arguments.parse (argvOf items) = .ok (argumentsOf items) := by
  unfold Arguments.parse
  rw [classifyAll_items proper, readPieces_items proper, foldlM_note proper parses]
  rfl

example : (Arguments.parse ["-p", "a", "-b", "-c", "x", "-p", "b"]).toOption.map
    (fun a => (a.projects, a.collectors, a.blocking)) =
    some ([.value "a", .value "b"], [.value "x"], true) := rfl

end RouteFeed.CommandLine
