/-
This file tells what a reader learns of rolls and meters in a block. The numbers
of a node are read from its properties, and the frame of a move shows the score
and the dice inside two elements that have the classes of the outcome.
-/
import CampaignPress.Proofs.Mechanics.Limit
import CampaignPress.Proofs.Mechanics.Verdict

namespace CampaignPress

namespace Mechanics

open Html (plainText entries leadingText)

/-- The classes of rolls in a block. A roll stands in two elements that have the classes of its
outcome. -/
def vocabulary (root : Text) : Html.Vocabulary :=
  ⟨root, "score", "challenge-die vs1", "challenge-die vs2"⟩

/-- The elements that have the classes of an outcome. -/
def roots : List Text := ["move", "roll"]

theorem number_eq {node : Node} {key : Text} {value : Int} (small : Numeral.IsSmall value)
    (found : node.property? key = some (Numeral.digits value)) : number node key = .ok value := by
  rw [number, found, Option.bind_some, Numeral.read?_digits small]
  rfl

theorem numberOrZero_eq {node : Node} {key : Text} {value : Int} (small : Numeral.IsSmall value)
    (found : node.property? key = some (Numeral.digits value)) :
    numberOrZero node key = .ok value := by
  rw [numberOrZero, found, Option.bind_some, Numeral.read?_digits small]
  rfl

theorem lift_number_eq {value : Int} (small : Numeral.IsSmall value) :
    lift (Html.number value) = .ok (plainText (Numeral.digits value)) := by
  rw [Html.number_eq small]
  rfl

/-- The classes of the dice that a score is made of. -/
def diceClasses : List Text := ["action-die", "stat", "stat-name", "adds"]

@[simp]
theorem entries_gap_append (spaces : Nat) (rest : Html) :
    entries (gap spaces ++ rest) = entries rest := rfl

@[simp]
theorem entries_entry_append (classes : Text) (content rest : Html) :
    entries (entry classes content ++ rest) =
      (classes, leadingText content) :: (entries content ++ entries rest) :=
  Html.entries_classed_append "dd" classes content rest

/-- The roll of a node with five numbers. -/
theorem exists_rollOf (name text : Text) {action adds stat first second : Int}
    (small : ∀ number ∈ [action, adds, stat, first, second], Numeral.IsSmall number) :
    ∃ dice, rollOf ⟨"roll", [name], [("action", Numeral.digits action),
      ("adds", Numeral.digits adds), ("stat", Numeral.digits stat), ("vs1", Numeral.digits first),
      ("vs2", Numeral.digits second)], text, []⟩ = .ok (⟨action + stat + adds, first, second⟩, dice) ∧
      ∀ classes ∈ dice.entries.map Prod.fst, classes ∈ diceClasses := by
  simp only [List.forall_mem_cons] at small
  obtain ⟨actionSmall, addsSmall, statSmall, firstSmall, secondSmall, -⟩ := small
  refine ⟨_, by
    rw [rollOf, if_pos rfl, number_eq actionSmall rfl, numberOrZero_eq addsSmall rfl,
      number_eq statSmall rfl, number_eq firstSmall rfl, number_eq secondSmall rfl]
    dsimp only [Bind.bind, Except.bind]
    rw [lift_number_eq actionSmall, lift_number_eq statSmall, lift_number_eq addsSmall]
    rfl, ?_⟩
  simp only [List.append_assoc, entries_entry_append, entries_gap_append, Html.entries_plainText,
    List.nil_append]
  exact fun classes member => member

/-- A roll of progress without a track has no dice of its own. -/
theorem rollOf_progress {node : Node} (other : node.keyword ≠ "roll".toList)
    (trackless : node.propertyText "name" = []) {score first second : Int}
    (scoreRead : node.property? "score" = some (Numeral.digits score))
    (firstRead : node.property? "vs1" = some (Numeral.digits first))
    (secondRead : node.property? "vs2" = some (Numeral.digits second))
    (small : ∀ number ∈ [score, first, second], Numeral.IsSmall number) :
    rollOf node = .ok (⟨score, first, second⟩, []) := by
  simp only [List.forall_mem_cons] at small
  obtain ⟨scoreSmall, firstSmall, secondSmall, -⟩ := small
  rw [rollOf, if_neg other, number_eq scoreSmall scoreRead, number_eq firstSmall firstRead,
    number_eq secondSmall secondRead, trackless]
  rfl

theorem exists_moveFrame (name : Text) {roll : Roll} (small : roll.IsSmall) (dice : Html) :
    ∃ html, moveFrame name roll dice [] = .ok html ∧ ∀ rest, entries (html ++ rest) =
      ("move " ++ Text.join " " roll.classes, []) :: ("move-name", displayName name) ::
        ("roll " ++ Text.join " " roll.classes, []) :: (dice.entries ++
          ((vocabulary []).entries roll ++ entries rest)) := by
  refine ⟨_, by
    rw [moveFrame, Html.number_eq small.score, Html.number_eq small.first,
      Html.number_eq small.second]
    rfl, ?_⟩
  intro rest
  simp only [Html.entries_element_append, List.append_assoc, Html.entries_classed_append,
    Html.entries_classed, entries_gap_append, label, shownName, Html.entries_plainText,
    Html.leadingText_plainText, List.nil_append, List.cons_append]
  rw [Html.entries_append (by rfl) dice]
  simp only [Html.entries_verbatim_cons, entries_entry_append, entries_gap_append,
    Html.entries_plainText, Html.leadingText_plainText, List.nil_append, List.append_assoc]
  rfl

/-- What holds a roll has the classes of its outcome. -/
theorem beside?_root (roll : Roll) : ∀ root ∈ roots,
    Html.beside? root (root ++ ' ' :: Text.join " " roll.classes) = some roll.classes := by
  rw [Roll.classes]
  cases roll.outcome <;> cases roll.isMatch <;> decide

theorem demandName_eq {name : Text} (named : name ≠ []) : demandName name = .ok name :=
  if_neg (by simpa using named)

variable (base : Text) (index : Index)

/-- The frame of a move is all that is in its block. -/
theorem blockHtml_move {name text source : Text} {child : Node} {roll : Roll} {dice html : Html}
    (named : name ≠ []) (isRoll : isRoll child) (rolled : rollOf child = .ok (roll, dice))
    (read : Node.ofBlock source = [⟨"move", [name], [], text, [child]⟩])
    (shown : moveFrame name roll dice [] = .ok html) :
    blockHtml base index source = .ok (Html.classed "div" language (html ++ [])) := by
  have head : moveHead ⟨"move", [name], [], text, [child]⟩ = .ok (name, roll, dice) := by
    have found : [child].find? Mechanics.isRoll = some child := List.find?_cons_of_pos isRoll
    rw [moveHead]
    show demandName name >>= _ = _
    rw [demandName_eq named]
    show demand ([child].find? Mechanics.isRoll) >>= _ = _
    rw [found]
    show rollOf child >>= _ = _
    rw [rolled]
    rfl
  have frame : nodeHtml base index ⟨"move", [name], [], text, [child]⟩ = .ok html := by
    have kind : kindOf "move" = .move := rfl
    rw [nodeHtml, kind]
    dsimp only
    rw [head]
    exact bind_eq_ok.2 ⟨[], by rw [extrasHtml, if_pos isRoll, nodesHtml], shown⟩
  refine bind_eq_ok.2 ⟨html ++ [], ?_, rfl⟩
  rw [read, nodesHtml]
  exact bind_eq_ok.2 ⟨html, frame, rfl⟩

/-- The classes in a block that are not those of a roll. -/
theorem isOther_of_mem : ∀ root ∈ roots, ∀ classes ∈ language :: "move-name" :: diceClasses,
    (vocabulary root).isOther classes := by
  decide

/-- Each of the two elements that have the classes of an outcome is passed over by the vocabulary
of the other one. -/
theorem isOther_root (roll : Roll) : ∀ root ∈ roots, ∀ other ∈ roots, root ≠ other →
    (vocabulary root).isOther (other ++ ' ' :: Text.join " " roll.classes) := by
  rw [Roll.classes]
  cases roll.outcome <;> cases roll.isMatch <;> decide

theorem isClear_vocabulary : ∀ root ∈ roots, (vocabulary root).isClear := by
  decide

/-- A block with a move shows the verdict of its roll, in both elements that have its classes. -/
theorem exists_blockHtml_move {name text source : Text} {child : Node} {roll : Roll} {dice : Html}
    (named : name ≠ []) (isRoll : isRoll child) (rolled : rollOf child = .ok (roll, dice))
    (small : roll.IsSmall) (inDice : ∀ classes ∈ dice.entries.map Prod.fst, classes ∈ diceClasses)
    (read : Node.ofBlock source = [⟨"move", [name], [], text, [child]⟩]) :
    ∃ html, blockHtml base index source = .ok html ∧
      ∀ root ∈ roots, html.verdict (vocabulary root) = .single roll roll.classes := by
  obtain ⟨frame, shown, frameEntries⟩ := exists_moveFrame name small dice
  refine ⟨_, blockHtml_move base index named isRoll rolled read shown, ?_⟩
  have whole : (Html.classed "div" language (frame ++ [])).entries =
      (language, leadingText (frame ++ [])) :: (frame ++ []).entries := Html.entries_classed _ _ _
  rw [frameEntries [], Html.entries_nil] at whole
  have moveKnown : "move".toList ∈ roots := by decide
  have rollKnown : "roll".toList ∈ roots := by decide
  simp only [roots, List.forall_mem_cons]
  refine ⟨?_, ?_, List.forall_mem_nil _⟩
  · have others := isOther_of_mem _ moveKnown
    refine Html.verdict_eq_single (isClear_vocabulary _ moveKnown)
      [(language, leadingText (frame ++ []))] []
      (("move-name", displayName name) ::
        ("roll " ++ Text.join " " roll.classes, []) :: dice.entries) [] _ whole rfl ?_
      (beside?_root roll _ moveKnown)
    simp only [List.append_nil, List.singleton_append, List.map_cons, List.forall_mem_cons]
    exact ⟨others _ List.mem_cons_self, others _ (List.mem_cons_of_mem _ List.mem_cons_self),
      isOther_root roll _ moveKnown _ rollKnown (by decide), fun classes member =>
        others classes (List.mem_cons_of_mem _ (List.mem_cons_of_mem _ (inDice classes member)))⟩
  · have others := isOther_of_mem _ rollKnown
    refine Html.verdict_eq_single (isClear_vocabulary _ rollKnown)
      [(language, leadingText (frame ++ [])),
        ("move " ++ Text.join " " roll.classes, []), ("move-name", displayName name)] []
      dice.entries [] _ whole rfl ?_ (beside?_root roll _ rollKnown)
    simp only [List.append_nil, List.map_append, List.map_cons, List.map_nil,
      List.forall_mem_append, List.forall_mem_cons]
    exact ⟨⟨others _ List.mem_cons_self, isOther_root roll _ rollKnown _ moveKnown (by decide),
      others _ (List.mem_cons_of_mem _ List.mem_cons_self), List.forall_mem_nil _⟩,
      fun classes member =>
        others classes (List.mem_cons_of_mem _ (List.mem_cons_of_mem _ (inDice classes member)))⟩

/-- A meter of a block has its name, its values, and the classes of its change. -/
theorem exists_meterHtml (node : Node) (named : argName node ≠ []) {start stop : Int}
    (startRead : node.property? "from" = some (Numeral.digits start))
    (stopRead : node.property? "to" = some (Numeral.digits stop))
    (startSmall : Numeral.IsSmall start) (stopSmall : Numeral.IsSmall stop) :
    ∃ html, meterHtml node = .ok html ∧ ∀ rest, entries (html ++ rest) =
      ("meter".toList ++ (changeClasses start stop).flatMap (' ' :: ·), []) ::
        ("meter-name".toList, displayName (argName node)) ::
          ("from".toList, Numeral.digits start) :: ("to".toList, Numeral.digits stop) ::
            entries rest := by
  have direction : (if start < stop then " meter-increase" else if stop < start then
      " meter-decrease" else [] : Text) = (changeClasses start stop).flatMap (' ' :: ·) := by
    rw [changeClasses]
    split_ifs <;> rfl
  refine ⟨_, by
    rw [meterHtml, demandName_eq named, number_eq startSmall startRead, number_eq stopSmall stopRead]
    dsimp only [Bind.bind, Except.bind]
    rw [lift_number_eq startSmall, lift_number_eq stopSmall, direction]
    rfl, fun rest => ?_⟩
  simp only [List.append_assoc, Html.entries_classed_append, entries_gap_append, label,
    Html.entries_element_append, entries_entry_append, shownName, Html.leadingText_plainText,
    Html.entries_plainText, List.nil_append]
  rfl

/-- A block with a meter shows its values, and the classes of its change. -/
theorem exists_blockHtml_meter {name text source : Text} {properties : List (Text × Text)}
    {start stop : Int} (named : name ≠ [])
    (startRead : Node.property? ⟨"meter", [name], properties, text, []⟩ "from" =
      some (Numeral.digits start))
    (stopRead : Node.property? ⟨"meter", [name], properties, text, []⟩ "to" =
      some (Numeral.digits stop))
    (startSmall : Numeral.IsSmall start) (stopSmall : Numeral.IsSmall stop)
    (read : Node.ofBlock source = [⟨"meter", [name], properties, text, []⟩]) :
    ∃ html, blockHtml base index source = .ok html ∧
      html.textsIn "from" = [Numeral.digits start] ∧ html.textsIn "to" = [Numeral.digits stop] ∧
      html.classesBeside "meter" = [changeClasses start stop] := by
  obtain ⟨meter, shown, meterEntries⟩ :=
    exists_meterHtml ⟨"meter", [name], properties, text, []⟩ named startRead stopRead startSmall
      stopSmall
  have shownBlock : blockHtml base index source = .ok (Html.classed "div" language (meter ++ [])) := by
    have kind : kindOf "meter" = .meter := rfl
    refine bind_eq_ok.2 ⟨meter ++ [], ?_, rfl⟩
    rw [read, nodesHtml, nodeHtml, kind]
    dsimp only
    rw [shown]
    rfl
  have whole : (Html.classed "div" language (meter ++ [])).entries =
      (language, leadingText (meter ++ [])) :: (meter ++ []).entries := Html.entries_classed _ _ _
  rw [meterEntries] at whole
  refine ⟨_, shownBlock, ?_, ?_, ?_⟩
  · rw [Html.textsIn, whole]
    rcases changeClasses_eq start stop with same | same | same <;> rw [same] <;> rfl
  · rw [Html.textsIn, whole]
    rcases changeClasses_eq start stop with same | same | same <;> rw [same] <;> rfl
  · rw [Html.classesBeside, whole]
    rcases changeClasses_eq start stop with same | same | same <;> rw [same] <;> rfl

end Mechanics

end CampaignPress
