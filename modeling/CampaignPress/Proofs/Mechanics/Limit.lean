/-
This file shows that a mechanics block is shown without a fault if its numbers
stay within the limit and have no separators of records around them. A node that
lacks something is no fault, it leaves a mark; so what is followed through the
parts of a node is that none of them ends in a fault, whether or not it gives a
result.
-/
import CampaignPress.Proofs.Mechanics.Tree

namespace CampaignPress

namespace Mechanics

/-! ### Computations without a fault -/

/-- A computation that gives a result or finds something malformed. -/
def Faultless {Outcome : Type} (result : Except Trouble Outcome) : Prop :=
  ∀ cause, result ≠ .error (.fault cause)

section Faultless

variable {First Second : Type}

theorem Faultless.ok (outcome : First) : Faultless (.ok outcome) := fun _ => nofun

theorem Faultless.bind {result : Except Trouble First} {next : First → Except Trouble Second}
    (first : Faultless result) (each : ∀ outcome, result = .ok outcome → Faultless (next outcome)) :
    Faultless (result >>= next) := by
  cases result with
  | error trouble =>
    intro cause same
    exact first cause (congrArg Except.error (Except.error.inj same))
  | ok outcome => exact each outcome rfl

theorem faultless_demand (value? : Option First) : Faultless (demand value?) := by
  cases value? with
  | none => exact fun _ => nofun
  | some value => exact .ok value

theorem faultless_lift {result : Except Fault First} (succeeds : Succeeds result) :
    Faultless (lift result) := by
  obtain ⟨outcome, rfl⟩ := succeeds
  exact .ok outcome

end Faultless

theorem faultless_demandName (name : Text) : Faultless (demandName name) := by
  rw [demandName]
  split
  · intro _ same
    cases same
  · exact .ok name

theorem succeeds_orMalformed (node : Node) {result : Except Trouble Html}
    (faultless : Faultless result) : Succeeds (orMalformed node result) := by
  cases result with
  | ok html => exact .ok html
  | error trouble =>
    cases trouble with
    | malformed => exact .ok _
    | fault cause => exact absurd rfl (faultless cause)

/-! ### Numbers -/

/-- Whether no property of a node is a numeral beyond the limit, or one with a separator of records
around it. -/
def hasNumerals (node : Node) : Bool :=
  node.properties.all fun entry =>
    match Numeral.read? entry.2 with
    | some (.error _) => false
    | _ => true

section Numbers

variable {node : Node} {key : Text}

theorem isSmall_of_read? {text : Text} {value : Int} (read : Numeral.read? text = some (.ok value)) :
    Numeral.IsSmall value := by
  obtain ⟨-, negative, digits, parts, read⟩ := Numeral.read?_eq_ok_iff.1 read
  obtain ⟨-, values, -⟩ := Numeral.parts?_eq_some_iff.1 parts
  exact Numeral.isSmall_of_ofSigned (Numeral.forall_lt_of_digitValues? values).2 read

theorem exists_of_number {value : Int} (read : number node key = .ok value) :
    (node.property? key).bind Numeral.read? = some (.ok value) := by
  obtain ⟨result, found, lifted⟩ := bind_eq_ok.1 read
  rw [demand_eq_ok.1 found, lift_eq_ok.1 lifted]

theorem isSmall_of_property {value : Int}
    (read : (node.property? key).bind Numeral.read? = some (.ok value)) : Numeral.IsSmall value := by
  obtain ⟨text, -, read⟩ := Option.bind_eq_some_iff.1 read
  exact isSmall_of_read? read

/-- No number beyond the limit is read from a property. -/
theorem isSmall_of_number {value : Int} (read : number node key = .ok value) :
    Numeral.IsSmall value := isSmall_of_property (exists_of_number read)

theorem isSmall_of_numberOrZero {value : Int} (read : numberOrZero node key = .ok value) :
    Numeral.IsSmall value := by
  rw [numberOrZero] at read
  split at read
  · rename_i result found
    rw [lift_eq_ok.1 read] at found
    exact isSmall_of_property found
  · obtain rfl := Except.ok.inj read
    exact Numeral.isSmall_of_lt (by decide)

theorem faultless_lift_number {value : Int} (small : Numeral.IsSmall value) :
    Faultless (lift (Html.number value)) := faultless_lift (Html.succeeds_number small)

variable (numerals : hasNumerals node)
include numerals

theorem succeeds_of_property {result : Except Fault Int}
    (found : (node.property? key).bind Numeral.read? = some result) : Succeeds result := by
  obtain ⟨value, known, read⟩ := Option.bind_eq_some_iff.1 found
  obtain ⟨before, after, same, -⟩ := List.lookup_eq_some_iff.1 known
  have inLimit := List.all_eq_true.1 numerals (key, value) (same ▸ by simp)
  rw [read] at inLimit
  cases result with
  | error cause => exact nomatch inLimit
  | ok number => exact .ok number

theorem faultless_number (key : Text) : Faultless (number node key) :=
  (faultless_demand _).bind fun _ found =>
    faultless_lift (succeeds_of_property numerals (demand_eq_ok.1 found))

theorem faultless_numberOrZero (key : Text) : Faultless (numberOrZero node key) := by
  rw [numberOrZero]
  split
  · rename_i result found
    exact faultless_lift (succeeds_of_property numerals found)
  · exact .ok 0

end Numbers

/-! ### Rolls -/

section Rolls

variable {node : Node}

theorem faultless_rollOf (numerals : hasNumerals node) : Faultless (rollOf node) := by
  rw [rollOf]
  split
  · refine (faultless_number numerals _).bind fun action actionRead => ?_
    refine (faultless_numberOrZero numerals _).bind fun adds addsRead => ?_
    refine (faultless_number numerals _).bind fun stat statRead => ?_
    refine (faultless_number numerals _).bind fun first _ => ?_
    refine (faultless_number numerals _).bind fun second _ => ?_
    refine (faultless_lift_number (isSmall_of_number actionRead)).bind fun _ _ => ?_
    refine (faultless_lift_number (isSmall_of_number statRead)).bind fun _ _ => ?_
    exact (faultless_lift_number (isSmall_of_numberOrZero addsRead)).bind fun _ _ => .ok _
  · refine (faultless_number numerals _).bind fun score _ => ?_
    refine (faultless_number numerals _).bind fun first _ => ?_
    exact (faultless_number numerals _).bind fun second _ => .ok _

/-- The challenge dice of a roll can be written. -/
theorem isSmall_of_rollOf {roll : Roll} {dice : Html} (rolled : rollOf node = .ok (roll, dice)) :
    Numeral.IsSmall roll.first ∧ Numeral.IsSmall roll.second := by
  rw [rollOf] at rolled
  split at rolled
  · obtain ⟨action, -, rolled⟩ := bind_eq_ok.1 rolled
    obtain ⟨adds, -, rolled⟩ := bind_eq_ok.1 rolled
    obtain ⟨stat, -, rolled⟩ := bind_eq_ok.1 rolled
    obtain ⟨first, firstRead, rolled⟩ := bind_eq_ok.1 rolled
    obtain ⟨second, secondRead, rolled⟩ := bind_eq_ok.1 rolled
    obtain ⟨_, -, rolled⟩ := bind_eq_ok.1 rolled
    obtain ⟨_, -, rolled⟩ := bind_eq_ok.1 rolled
    obtain ⟨_, -, rolled⟩ := bind_eq_ok.1 rolled
    obtain ⟨rfl, -⟩ := Prod.mk.inj (Except.ok.inj rolled)
    exact ⟨isSmall_of_number firstRead, isSmall_of_number secondRead⟩
  · obtain ⟨score, -, rolled⟩ := bind_eq_ok.1 rolled
    obtain ⟨first, firstRead, rolled⟩ := bind_eq_ok.1 rolled
    obtain ⟨second, secondRead, rolled⟩ := bind_eq_ok.1 rolled
    obtain ⟨rfl, -⟩ := Prod.mk.inj (Except.ok.inj rolled)
    exact ⟨isSmall_of_number firstRead, isSmall_of_number secondRead⟩

theorem succeeds_moveFrame (name : Text) {roll : Roll} (dice extras : Html)
    (score : Numeral.IsSmall roll.score) (first : Numeral.IsSmall roll.first)
    (second : Numeral.IsSmall roll.second) : Succeeds (moveFrame name roll dice extras) :=
  (Html.succeeds_number score).bind fun _ => (Html.succeeds_number first).bind fun _ =>
    (Html.succeeds_number second).bind fun _ => .ok _

theorem faultless_meterHtml (numerals : hasNumerals node) : Faultless (meterHtml node) := by
  refine (faultless_demandName _).bind fun name _ => ?_
  refine (faultless_number numerals _).bind fun start startRead => ?_
  refine (faultless_number numerals _).bind fun stop stopRead => ?_
  refine (faultless_lift_number (isSmall_of_number startRead)).bind fun _ _ => ?_
  exact (faultless_lift_number (isSmall_of_number stopRead)).bind fun _ _ => .ok _

end Rolls

/-! ### Trees -/

/-- Whether the score of a roll can be written. -/
def hasScore (node : Node) : Bool :=
  match rollOf node with
  | .ok (roll, _) => Numeral.IsSmall roll.score
  | .error _ => true

mutual

/-- Whether a node stays within the limit with its numerals and its score, as its children do. -/
def isBounded : Node → Bool
  | ⟨keyword, args, properties, source, children⟩ =>
    let node : Node := ⟨keyword, args, properties, source, children⟩
    hasNumerals node && hasScore node && areBounded children

def areBounded : List Node → Bool
  | [] => true
  | node :: nodes => isBounded node && areBounded nodes

end

theorem areBounded_iff {nodes : List Node} : areBounded nodes ↔ ∀ node ∈ nodes, isBounded node := by
  induction nodes with
  | nil => simp [areBounded]
  | cons node nodes inductionHypothesis =>
    rw [areBounded, Bool.and_eq_true, inductionHypothesis, List.forall_mem_cons]

theorem isBounded_iff {node : Node} :
    isBounded node ↔ hasNumerals node ∧ hasScore node ∧ ∀ child ∈ node.children, isBounded child := by
  obtain ⟨keyword, args, properties, source, children⟩ := node
  rw [isBounded, Bool.and_eq_true, Bool.and_eq_true, and_assoc, areBounded_iff]

theorem isSmall_of_hasScore {node : Node} (score : hasScore node) {roll : Roll} {dice : Html}
    (rolled : rollOf node = .ok (roll, dice)) : Numeral.IsSmall roll.score := by
  rw [hasScore, rolled] at score
  exact of_decide_eq_true score

theorem faultless_moveHead {node : Node} (bounded : isBounded node) : Faultless (moveHead node) := by
  refine (faultless_demandName _).bind fun name _ => ?_
  refine (faultless_demand _).bind fun child found => ?_
  have inChildren := List.mem_of_find?_eq_some (demand_eq_ok.1 found)
  have child := isBounded_iff.1 ((isBounded_iff.1 bounded).2.2 child inChildren)
  exact (faultless_rollOf child.1).bind fun _ _ => .ok _

variable (base : Text) (index : Index)

mutual

theorem succeeds_nodeHtml : ∀ node : Node, isBounded node → Succeeds (nodeHtml base index node)
  | ⟨keyword, args, properties, source, children⟩, bounded => by
    obtain ⟨numerals, -, inside⟩ := isBounded_iff.1 bounded
    rw [nodeHtml]
    cases kindOf keyword with
    | move =>
      dsimp only
      have faultless := faultless_moveHead bounded
      cases head : moveHead ⟨keyword, args, properties, source, children⟩ with
      | error trouble =>
        rw [head] at faultless
        exact succeeds_orMalformed _ fun cause same =>
          faultless cause (congrArg Except.error (Except.error.inj same))
      | ok parts =>
        obtain ⟨name, roll, dice⟩ := parts
        obtain ⟨child, found, rolled⟩ := exists_roll_of_moveHead head
        have score := (isBounded_iff.1 (inside child (List.mem_of_find?_eq_some found))).2.1
        obtain ⟨first, second⟩ := isSmall_of_rollOf rolled
        exact (succeeds_extrasHtml children inside).bind fun extras =>
          succeeds_moveFrame name dice extras (isSmall_of_hasScore score rolled) first second
    | oracle => exact succeeds_orMalformed _ ((faultless_demandName _).bind fun _ _ => .ok _)
    | oracleGroup => exact (succeeds_oraclesHtml children inside).bind fun _ => .ok _
    | track => exact .ok _
    | meter => exact succeeds_orMalformed _ (faultless_meterHtml numerals)
    | unknown => exact .ok _

theorem succeeds_nodesHtml : ∀ nodes : List Node, (∀ node ∈ nodes, isBounded node) →
    Succeeds (nodesHtml base index nodes)
  | [], _ => .ok []
  | node :: nodes, bounded => by
    rw [List.forall_mem_cons] at bounded
    rw [nodesHtml]
    exact (succeeds_nodeHtml node bounded.1).bind fun _ =>
      (succeeds_nodesHtml nodes bounded.2).bind fun _ => .ok _

theorem succeeds_extrasHtml : ∀ nodes : List Node, (∀ node ∈ nodes, isBounded node) →
    Succeeds (extrasHtml base index nodes)
  | [], _ => .ok []
  | node :: nodes, bounded => by
    rw [List.forall_mem_cons] at bounded
    rw [extrasHtml]
    split
    · exact succeeds_nodesHtml nodes bounded.2
    · exact (succeeds_nodeHtml node bounded.1).bind fun _ =>
        (succeeds_extrasHtml nodes bounded.2).bind fun _ => .ok _

theorem succeeds_oraclesHtml : ∀ nodes : List Node, (∀ node ∈ nodes, isBounded node) →
    Succeeds (oraclesHtml base index nodes)
  | [], _ => .ok []
  | node :: nodes, bounded => by
    rw [List.forall_mem_cons] at bounded
    rw [oraclesHtml]
    split
    · exact (succeeds_nodeHtml node bounded.1).bind fun _ =>
        (succeeds_oraclesHtml nodes bounded.2).bind fun _ => .ok _
    · exact succeeds_oraclesHtml nodes bounded.2

end

/-- A block is shown if its nodes stay within the limit. -/
theorem succeeds_blockHtml {source : Text} (bounded : areBounded (Node.ofBlock source)) :
    Succeeds (blockHtml base index source) :=
  (succeeds_nodesHtml base index _ (areBounded_iff.1 bounded)).bind fun _ => .ok _

end Mechanics

end CampaignPress
