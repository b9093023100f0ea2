import Mathlib.Data.List.Infix
import StaticSite.Config.Yaml.Node
import StaticSite.Proofs.Config.Yaml.Scanning

/-!
# Faults of the reader of nodes

The reader of the tokens of YAML is as deep in nodes as in collections that the tokens open and do
not close, or twice as deep: a sequence without indentation and a pair in a flow sequence count,
though no token opens them.  So it fails only where collections are nested too deeply.
-/

namespace StaticSite

namespace Config

namespace Yaml

variable {α β : Type} {all tokens : List Token} {token : Token} {before after level : Int}
  {step : Read α} {text : Text} {fault : Fault}

/-- How many more collections are open behind a token than in front of it. -/
def Token.turn : Token → Int
  | .blockSequenceStart | .blockMappingStart | .flowSequenceStart | .flowMappingStart => 1
  | .blockEnd | .flowSequenceEnd | .flowMappingEnd => -1
  | _ => 0

/-- How many collections tokens open and do not close. -/
def levelOf : List Token → Int
  | [] => 0
  | token :: tokens => token.turn + levelOf tokens

theorem levelOf_append (first second : List Token) :
    levelOf (first ++ second) = levelOf first + levelOf second := by
  induction first with
  | nil => exact (Int.zero_add _).symm
  | cons token first ih =>
      rw [List.cons_append, levelOf, levelOf, ih]
      omega

/-- The reader has taken tokens that leave a number of collections open. -/
def At (all : List Token) (level : Int) (reader : Reader) : Prop :=
  ∃ taken, all = taken ++ reader.tokens ∧ levelOf taken = level

/-- Half as many collections as the reader follows nodes within one another are open. -/
def Nests (all : List Token) (fault : Fault) : Prop :=
  fault = .depth ∧ ∃ taken, taken <+: all ∧ (deepest : Int) < 2 * levelOf taken

/-- A step of the reader takes tokens from a level to a level. -/
def Climbs (all : List Token) (before : Int) (step : Read α) (after : Int) : Prop :=
  Leads (At all before) step (fun _ => At all after) (Nests all)

theorem Climbs.bind {next : α → Read β} (climbs : Climbs all before step level)
    (then_ : ∀ value, Climbs all level (next value) after) :
    Climbs all before (step >>= next) after :=
  Leads.bind climbs then_

theorem climbs_pure (value : α) : Climbs all level (pure value) level :=
  leads_pure value fun _ => id

theorem climbs_refuse : Climbs all before (refuse : Read α) after :=
  leads_malformed

theorem climbs_refuse_bind {next : α → Read β} : Climbs all before (refuse >>= next) after :=
  leads_malformed_bind

theorem climbs_get {next : Reader → Read β} (then_ : ∀ reader, Climbs all before (next reader) after) :
    Climbs all before (get >>= next) after :=
  leads_get fun reader here => (then_ reader).from_ fun _ same => same ▸ here

theorem climbs_modify {change : Reader → Reader}
    (stays : ∀ reader, (change reader).tokens = reader.tokens) :
    Climbs all level (modify change) level := by
  refine leads_modify fun reader ⟨taken, whole, same⟩ => ⟨taken, ?_, same⟩
  rw [stays reader, whole]

/-! ## Looking at tokens and taking them -/

/-- A token is the next one of a reader. -/
def Ahead (all : List Token) (level : Int) (token : Token) (reader : Reader) : Prop :=
  At all level reader ∧ reader.tokens.head?.getD .streamEnd = token

theorem leads_look {next : Token → Read β} {last : β → Reader → Prop}
    (then_ : ∀ token, Leads (Ahead all before token) (next token) last (Nests all)) :
    Leads (At all before) (look >>= next) last (Nests all) :=
  fun reader here => then_ _ reader ⟨here, rfl⟩

theorem climbs_of_ahead (climbs : Climbs all before step after) :
    Leads (Ahead all before token) step (fun _ => At all after) (Nests all) :=
  climbs.from_ fun _ => And.left

theorem leads_skip :
    Leads (Ahead all level token) skip (fun _ => At all (level + token.turn)) (Nests all) := by
  refine leads_modify fun reader ⟨⟨taken, whole, same⟩, next⟩ => ?_
  cases left : reader.tokens with
  | nil =>
      rw [left] at next
      cases next
      refine ⟨taken, ?_, ?_⟩
      · rw [whole, left]
        rfl
      · rw [same]
        exact (Int.add_zero _).symm
  | cons first rest =>
      rw [left] at next
      cases next
      refine ⟨taken ++ [first], ?_, ?_⟩
      · rw [whole, left]
        simp
      · rw [levelOf_append, same, levelOf, levelOf, Int.add_zero]
        rfl

theorem climbs_accept {next : Bool → Read β}
    (taken : Climbs all (before + token.turn) (next true) after)
    (other : Climbs all before (next false) after) :
    Climbs all before (accept token >>= next) after := by
  have accepts : Leads (At all before) (accept token)
      (fun taken => At all (if taken then before + token.turn else before)) (Nests all) := by
    unfold accept
    refine leads_look fun first => ?_
    split
    · next same =>
        subst same
        exact leads_skip.bind fun _ => leads_pure true fun _ => id
    · exact leads_pure false fun _ => And.left
  refine Leads.bind accepts fun accepted => ?_
  cases accepted with
  | true => exact taken
  | false => exact other

theorem climbs_accept_flat {next : Bool → Read β} (flat : token.turn = 0)
    (taken : Climbs all before (next true) after) (other : Climbs all before (next false) after) :
    Climbs all before (accept token >>= next) after := by
  refine climbs_accept ?_ other
  rw [flat, Int.add_zero]
  exact taken

theorem climbs_accept_end {next : Bool → Read β} (ends : token.turn = -1)
    (taken : Climbs all level (next true) after)
    (other : Climbs all (level + 1) (next false) after) :
    Climbs all (level + 1) (accept token >>= next) after := by
  refine climbs_accept ?_ other
  rw [ends, Int.add_neg_cancel_right]
  exact taken

theorem climbs_lookIn (tokens : List Token) : Climbs all level (lookIn tokens) level :=
  leads_look fun _ => climbs_of_ahead (climbs_pure _)

/-! ## Numbers, anchors and tags -/

theorem climbs_reserve : Climbs all level reserve level := by
  refine climbs_get fun _ => Climbs.bind (climbs_modify ?_) fun _ => climbs_pure _
  exact fun _ => rfl

theorem climbs_fill (number : Nat) (node : Node) : Climbs all level (fill number node) level :=
  climbs_modify fun _ => rfl

theorem climbs_addNode (node : Node) : Climbs all level (addNode node) level :=
  climbs_reserve.bind fun number => (climbs_fill number node).bind fun _ => climbs_pure _

theorem climbs_emptyNode : Climbs all level emptyNode level :=
  climbs_addNode _

theorem climbs_remember (anchor : Option Text) (number : Nat) :
    Climbs all level (remember anchor number) level := by
  unfold remember
  split
  · exact climbs_pure _
  · exact climbs_modify fun _ => rfl

theorem climbs_fullTag (handle : Option Text) (suffix : Text) :
    Climbs all level (fullTag handle suffix) level := by
  unfold fullTag
  split
  · exact climbs_pure _
  · refine climbs_get fun reader => ?_
    split
    · exact climbs_pure _
    · exact climbs_refuse

/-- Anchors and tags leave as many collections open. -/
theorem climbs_skip {next : Unit → Read β} (flat : token.turn = 0)
    (then_ : Climbs all before (next ()) after) :
    Leads (Ahead all before token) (skip >>= next) (fun _ => At all after) (Nests all) := by
  refine leads_skip.bind fun _ => ?_
  rw [flat, Int.add_zero]
  exact then_

theorem climbs_readProperties : Climbs all level readProperties level := by
  unfold readProperties
  refine leads_look fun first => ?_
  split
  · refine climbs_skip rfl (leads_look fun second => ?_)
    split
    · exact climbs_skip rfl ((climbs_fullTag _ _).bind fun _ => climbs_pure _)
    · exact climbs_of_ahead (climbs_pure _)
  · refine climbs_skip rfl (leads_look fun second => ?_)
    split
    · exact climbs_skip rfl ((climbs_fullTag _ _).bind fun _ => climbs_pure _)
    · exact climbs_of_ahead ((climbs_fullTag _ _).bind fun _ => climbs_pure _)
  · exact climbs_of_ahead (climbs_pure _)

theorem climbs_findAnchor (name : Text) : Climbs all level (findAnchor name) level := by
  unfold findAnchor
  refine climbs_get fun reader => ?_
  split
  · exact climbs_pure _
  · exact climbs_refuse

theorem climbs_beginNode : Climbs all level beginNode level := by
  unfold beginNode
  refine climbs_readProperties.bind fun properties =>
    Climbs.bind (climbs_get fun _ => climbs_pure _) fun taken => ?_
  split
  · exact climbs_refuse
  · exact climbs_reserve.bind fun number => (climbs_remember _ number).bind fun _ => climbs_pure _

theorem climbs_bareNode (properties : Properties) : Climbs all level (bareNode properties) level := by
  unfold bareNode
  split
  · exact climbs_pure _
  · exact climbs_refuse

theorem climbs_separate (first : Bool) : Climbs all level (separate first) level := by
  unfold separate
  split
  · exact climbs_pure _
  · exact climbs_accept_flat rfl (climbs_pure _) climbs_refuse

theorem climbs_readValueWith {value : Read Nat} (climbs : Climbs all level value level) :
    Climbs all level (readValueWith value) level :=
   climbs_accept_flat rfl climbs climbs_emptyNode

/-! ## Nodes -/

/-- The readers of the nodes within collections of each kind take the tokens that close them. -/
structure Closes (all : List Token) (level : Int) (indentless : Bool) (inner : Inner) : Prop where
  indentless : indentless = true → Climbs all level inner.indentless level
  blockItems : Climbs all (level + 1) inner.blockItems level
  blockEntries : Climbs all (level + 1) inner.blockEntries level
  flowItems : Climbs all (level + 1) inner.flowItems level
  flowEntries : Climbs all (level + 1) inner.flowEntries level

theorem climbs_readContent (block indentless : Bool) (properties : Properties) {inner : Inner}
    (closes : Closes all level indentless inner) :
    Climbs all level (readContent block indentless properties inner) level := by
  have opened {β : Type} {token : Token} {items : Read β} (opens : token.turn = 1)
      (climbs : Climbs all (level + 1) items level) (node : β → Node) :
      Leads (Ahead all level token) (skip >>= fun _ => items >>= fun read => pure (node read))
        (fun _ => At all level) (Nests all) := by
    refine leads_skip.bind fun _ => ?_
    rw [opens]
    exact climbs.bind fun _ => climbs_pure _
  unfold readContent
  dsimp only
  refine leads_look fun token => ?_
  split
  · split
    · next allowed =>
        exact climbs_of_ahead ((closes.indentless allowed).bind fun _ => climbs_pure _)
    · exact climbs_of_ahead (climbs_bareNode _)
  · exact climbs_skip rfl (climbs_pure _)
  · exact opened rfl closes.flowItems _
  · exact opened rfl closes.flowEntries _
  · split
    · exact opened rfl closes.blockItems _
    · exact climbs_of_ahead (climbs_bareNode _)
  · split
    · exact opened rfl closes.blockEntries _
    · exact climbs_of_ahead (climbs_bareNode _)
  · exact climbs_of_ahead (climbs_bareNode _)

/-- What the readers of nodes and of the nodes within collections do, as long as they are not too
deep for the collections that are open. -/
structure ClimbsNodes (all : List Token) (fuel : Nat) : Prop where
  node : ∀ (depth : Nat) block indentless (level : Int),
    depth + (if indentless then 1 else 0) ≤ 2 * level →
      Climbs all level (readNode fuel depth block indentless) level
  nodeUnless : ∀ (depth : Nat) block indentless tokens (level : Int),
    depth + (if indentless then 1 else 0) ≤ 2 * level →
      Climbs all level (readNodeUnless fuel depth block indentless tokens) level
  blockItems : ∀ (depth : Nat) (level : Int), depth ≤ 2 * level + 2 →
    Climbs all (level + 1) (readBlockItems fuel depth) level
  indentless : ∀ (depth : Nat) (level : Int), depth ≤ 2 * level →
    Climbs all level (readIndentless fuel depth) level
  blockEntries : ∀ (depth : Nat) (level : Int), depth ≤ 2 * level + 1 →
    Climbs all (level + 1) (readBlockEntries fuel depth) level
  flowItems : ∀ (depth : Nat) first (level : Int), depth ≤ 2 * level + 1 →
    Climbs all (level + 1) (readFlowItems fuel depth first) level
  flowEntries : ∀ (depth : Nat) first (level : Int), depth ≤ 2 * level + 2 →
    Climbs all (level + 1) (readFlowEntries fuel depth first) level

namespace ClimbsNodes

variable {depth fuel : Nat} (climbs : ClimbsNodes all fuel)

include climbs

theorem node_succ (block indentless : Bool)
    (within : depth + (if indentless then 1 else 0) ≤ 2 * level) :
    Climbs all level (readNode (fuel + 1) depth block indentless) level := by
  have deepest : depth ≤ 2 * level := by
    split at within
    · omega
    · omega
  rw [readNode]
  split
  · next far =>
      refine leads_fault fun reader ⟨taken, whole, same⟩ => ⟨rfl, taken, ⟨_, whole.symm⟩, ?_⟩
      omega
  · refine leads_look fun token => ?_
    split
    · exact climbs_skip rfl (climbs_findAnchor _)
    · refine climbs_of_ahead (climbs_beginNode.bind fun (properties, number) =>
        (climbs_readContent block indentless properties ?_).bind fun node =>
          (climbs_fill number node).bind fun _ => climbs_pure _)
      exact ⟨fun allowed => climbs.indentless (depth + 1) level (by rw [allowed] at within; exact within),
        climbs.blockItems (depth + 1) level (by omega),
        climbs.blockEntries (depth + 1) level (by omega),
        climbs.flowItems (depth + 1) true level (by omega),
        climbs.flowEntries (depth + 1) true level (by omega)⟩

theorem nodeUnless_succ (block indentless : Bool) (tokens : List Token)
    (within : depth + (if indentless then 1 else 0) ≤ 2 * level) :
    Climbs all level (readNodeUnless (fuel + 1) depth block indentless tokens) level := by
  rw [readNodeUnless]
  refine (climbs_lookIn tokens).bind fun empty => ?_
  split
  · exact climbs_emptyNode
  · exact climbs.node depth block indentless level within

theorem blockItems_succ (within : depth ≤ 2 * level + 2) :
    Climbs all (level + 1) (readBlockItems (fuel + 1) depth) level := by
  rw [readBlockItems]
  refine climbs_accept_flat rfl ?_ (climbs_accept_end rfl (climbs_pure _) climbs_refuse)
  exact (climbs.nodeUnless depth true false _ (level + 1) (by simp; omega)).bind fun item =>
    (climbs.blockItems depth level within).bind fun items => climbs_pure _

theorem indentless_succ (within : depth ≤ 2 * level) :
    Climbs all level (readIndentless (fuel + 1) depth) level := by
  rw [readIndentless]
  refine climbs_accept_flat rfl ?_ (climbs_pure _)
  exact (climbs.nodeUnless depth true false _ level (by simpa using within)).bind fun item =>
    (climbs.indentless depth level within).bind fun items => climbs_pure _

theorem blockEntries_succ (within : depth ≤ 2 * level + 1) :
    Climbs all (level + 1) (readBlockEntries (fuel + 1) depth) level := by
  rw [readBlockEntries]
  have entry :=
    climbs.nodeUnless depth true true [.key, .value, .blockEnd] (level + 1) (by simp; omega)
  refine climbs_accept_end rfl (climbs_pure _) (climbs_accept_flat rfl ?_ climbs_refuse)
  exact entry.bind fun key => (climbs_readValueWith entry).bind fun value =>
    (climbs.blockEntries depth level within).bind fun entries => climbs_pure _

theorem flowItems_succ (first : Bool) (within : depth ≤ 2 * level + 1) :
    Climbs all (level + 1) (readFlowItems (fuel + 1) depth first) level := by
  rw [readFlowItems]
  refine climbs_accept_end rfl (climbs_pure _) ((climbs_separate first).bind fun _ => ?_)
  refine climbs_accept_flat rfl ?_ (climbs_accept_end rfl (climbs_pure _) ?_)
  · have pair (tokens : List Token) :=
      climbs.nodeUnless (depth + 1) false false tokens (level + 1) (by simp; omega)
    exact (pair _).bind fun key => (climbs_readValueWith (pair _)).bind fun value =>
      (climbs_addNode _).bind fun item => (climbs.flowItems depth false level within).bind
        fun items => climbs_pure _
  · exact (climbs.node depth false false (level + 1) (by simp; omega)).bind fun item =>
      (climbs.flowItems depth false level within).bind fun items => climbs_pure _

theorem flowEntries_succ (first : Bool) (within : depth ≤ 2 * level + 2) :
    Climbs all (level + 1) (readFlowEntries (fuel + 1) depth first) level := by
  rw [readFlowEntries]
  refine climbs_accept_end rfl (climbs_pure _) ((climbs_separate first).bind fun _ => ?_)
  refine climbs_accept_flat rfl ?_ (climbs_accept_end rfl (climbs_pure _) ?_)
  · have entry (tokens : List Token) :=
      climbs.nodeUnless depth false false tokens (level + 1) (by simp; omega)
    exact (entry _).bind fun key => (climbs_readValueWith (entry _)).bind fun value =>
      (climbs.flowEntries depth false level within).bind fun entries => climbs_pure _
  · exact (climbs.node depth false false (level + 1) (by simp; omega)).bind fun key =>
      climbs_emptyNode.bind fun value => (climbs.flowEntries depth false level within).bind
        fun entries => climbs_pure _

end ClimbsNodes

theorem climbsNodes (fuel : Nat) : ClimbsNodes all fuel := by
  induction fuel with
  | zero =>
      constructor
      all_goals
        intros
        simp only [readNode, readNodeUnless, readBlockItems, readIndentless, readBlockEntries,
          readFlowItems, readFlowEntries]
        exact climbs_refuse
  | succ fuel ih =>
      exact ⟨fun _ block indentless _ => ih.node_succ block indentless,
        fun _ block indentless tokens _ => ih.nodeUnless_succ block indentless tokens,
        fun _ _ => ih.blockItems_succ, fun _ _ => ih.indentless_succ,
        fun _ _ => ih.blockEntries_succ, fun _ first _ => ih.flowItems_succ first,
        fun _ first _ => ih.flowEntries_succ first⟩

/-! ## Documents -/

theorem climbs_readDirectives (versioned : Bool) (handles : List (Text × Text)) (fuel : Nat) :
    Climbs all level (readDirectives versioned handles fuel) level := by
  induction fuel generalizing versioned handles with
  | zero => exact climbs_refuse
  | succ fuel ih =>
      rw [readDirectives]
      refine leads_look fun token => ?_
      dsimp only
      split
      · split
        · exact climbs_of_ahead climbs_refuse_bind
        · exact climbs_skip rfl (ih true handles)
      · split
        · exact climbs_of_ahead climbs_refuse_bind
        · exact climbs_skip rfl (ih versioned _)
      · exact climbs_skip rfl (ih versioned handles)
      · exact climbs_of_ahead (climbs_modify fun _ => rfl)

theorem climbs_skipDocumentEnds (fuel : Nat) :
    Climbs all level (skipDocumentEnds fuel) level := by
  induction fuel with
  | zero => exact climbs_pure _
  | succ fuel ih => exact climbs_accept_flat rfl ih (climbs_pure _)

theorem climbs_root (size : Nat) : Climbs all 0 (readNode (3 * size + 3) 0 true false) 0 :=
  (climbsNodes _).node 0 true false 0 (by decide)

theorem climbs_readMarked (size : Nat) : Climbs all 0 (readMarked size) 0 := by
  unfold readMarked
  refine (climbs_readDirectives false [] _).bind fun _ => climbs_accept_flat rfl ?_ climbs_refuse
  refine leads_look fun token => ?_
  split
  · exact climbs_of_ahead climbs_emptyNode
  · exact climbs_of_ahead (climbs_root size)

theorem climbs_readRoot (size : Nat) : Climbs all 0 (readRoot size) 0 := by
  have marked := (@climbs_readMarked all size).bind fun root => climbs_pure (some root)
  unfold readRoot
  refine leads_look fun token => ?_
  split
  · exact climbs_of_ahead (climbs_pure _)
  · exact climbs_of_ahead marked
  · exact climbs_of_ahead marked
  · exact climbs_of_ahead marked
  · exact climbs_of_ahead marked
  · refine climbs_of_ahead (Climbs.bind (climbs_modify ?_) fun _ =>
      (climbs_root size).bind fun root => climbs_pure _)
    exact fun _ => rfl

theorem climbs_readDocument (size : Nat) : Climbs all 0 (readDocument size) 0 := by
  unfold readDocument
  refine (climbs_readRoot size).bind fun root => (climbs_skipDocumentEnds _).bind fun _ =>
    leads_look fun token => ?_
  split
  · exact climbs_of_ahead (climbs_pure _)
  · exact climbs_of_ahead climbs_refuse

/-- The reader of nodes fails only where the scanner does and where collections are nested too
deeply. -/
theorem nests_of_compose (failed : compose text = .error (.fault fault)) :
    Escapes text fault ∨ ∃ tokens, tokenize text = .ok tokens ∧ Nests tokens fault := by
  unfold compose at failed
  rcases bind_eq_error_iff.1 failed with failed | ⟨tokens, scanned, failed⟩
  · exact Or.inl (escapes_of_tokenize failed)
  · rcases bind_eq_error_iff.1 failed with failed | ⟨result, -, made⟩
    · have climbs := climbs_readDocument tokens.length { tokens := tokens } ⟨[], rfl, rfl⟩
      rw [failed] at climbs
      exact Or.inr ⟨tokens, scanned, climbs⟩
    · cases made

end Yaml

end Config

end StaticSite
