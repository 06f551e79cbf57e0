/-
This file says when setting fences apart keeps a text as it is. Empty lines
open no fence and close none, so the fences of the prepared text are those of
the text, one by one; they keep their bodies, up to blanks at the end, if in
each of them nothing is set apart but the line that closes it. And every fence
of backticks gets its empty line, but for those right below three backticks that
were set apart themselves.
-/
import CampaignPress.Proofs.Prose.Parting
import CampaignPress.Proofs.Prose.Split

namespace CampaignPress

namespace Prose

open Segment (groupFrom)

/-! ### Open fences -/

/-- Items, each with the fence that is open above its line. -/
def track {Item : Type} (line : Item → Text) : Option Fence → List Item → List (Option Fence × Item)
  | _, [] => []
  | fence, item :: items => (fence, item) :: track line (Fence.after fence (line item)) items

theorem map_snd_track {Item : Type} (line : Item → Text) (fence : Option Fence)
    (items : List Item) : (track line fence items).map Prod.snd = items := by
  induction items generalizing fence with
  | nil => rfl
  | cons item items inductionHypothesis => rw [track, List.map_cons, inductionHypothesis]

theorem after_nil (fence : Option Fence) : Fence.after fence [] = fence := by
  cases fence <;> rfl

theorem forall_mem_none {Item : Type} {Holds : Item → Prop} : ∀ item ∈ none, Holds item :=
  fun _ member => absurd member (Option.not_mem_none _)

/-- A fence of backticks opens at the start of a line above which no fence is open. -/
def OpensAtStart (fence : Option Fence) (line : Text) : Prop :=
  fence = none ∧ (Fence.opened? line).isSome ∧ Text.startsWith line "```"

instance (fence : Option Fence) (line : Text) : Decidable (OpensAtStart fence line) :=
  inferInstanceAs (Decidable (_ ∧ _ ∧ _))

/-! ### Fences -/

/-- The parts of a fence: the line that opens it, the lines up to one that closes it, and this line,
if there is one. -/
structure IsFence (segment : Segment) (opening : Text) (body : List Text)
    (closing : Option Text) : Prop where
  lines : segment.lines = opening :: (body ++ closing.toList)
  marks : ∃ fence, Fence.opened? opening = some fence ∧
    (∀ line ∈ body, fence.closes line = false) ∧ ∀ line ∈ closing, fence.closes line = true

/-- Two fences with the same lines around bodies that are the same but for blanks at the end. -/
def SameFence (old new : Segment) : Prop :=
  ∃ opening oldBody newBody closing, IsFence old opening oldBody closing ∧
    IsFence new opening newBody closing ∧
      Text.trimEnd (Text.ended newBody) = Text.trimEnd (Text.ended oldBody)

/-- What setting fences apart is to do: every fence of backticks at the start of a line comes first or
follows an empty line, the fences are the same, and but for empty lines, nothing is put in. -/
structure OnlySeparates (source separated : Text) : Prop where
  apart : (track id none (Text.lines separated)).IsChain fun above below =>
    OpensAtStart below.1 below.2 → above.2 = []
  fences : List.Forall₂ SameFence ((Segment.ofText source).filter (·.fenced))
    ((Segment.ofText separated).filter (·.fenced))
  lines : Respaced (Text.lines source) (Text.lines separated)

/-- The texts on which setting fences apart does this: a line that is set apart inside of a fence
closes it, and below three backticks that are set apart, no fence of backticks opens at the start of
the line. -/
structure IsWellParted (items : List Parted) : Prop where
  inside : ∀ entry ∈ track Parted.line none items, entry.2.apart = true →
    ∀ fence ∈ entry.1, fence.closes entry.2.line = true
  outside : (track Parted.line none items).IsChain fun above below =>
    above.2.apart = true → above.2.line = "```".toList → ¬ OpensAtStart below.1 below.2.line

/-! ### Lines below each other -/

theorem isChain_track_linesWith (fence : Option Fence) (items : List Parted) (above : Option Fence)
    (item : Parted) :
    ((above, item.line) :: track id fence (linesWith Parted.apart items)).IsChain
        (fun above below => OpensAtStart below.1 below.2 → above.2 = []) ↔
      ((above, item) :: track Parted.line fence items).IsChain fun above below =>
        below.2.apart = false → OpensAtStart below.1 below.2.line → above.2.line = [] := by
  induction items generalizing fence above item with
  | nil => simp [linesWith, track]
  | cons next items inductionHypothesis =>
    have later := inductionHypothesis (Fence.after fence next.line) fence next
    rw [linesWith_cons, track, List.isChain_cons_cons]
    cases apart : next.apart with
    | true =>
      have nothing : ¬ OpensAtStart fence [] := fun opens => absurd opens.2.2 Bool.false_ne_true
      have gap : gap true ++ next.line :: linesWith Parted.apart items =
          [] :: next.line :: linesWith Parted.apart items := rfl
      rw [gap, track, track, id, id, after_nil, List.isChain_cons_cons, List.isChain_cons_cons,
        later]
      simp [nothing]
    | false =>
      have gap : gap false ++ next.line :: linesWith Parted.apart items =
          next.line :: linesWith Parted.apart items := rfl
      rw [gap, track, id, List.isChain_cons_cons, later]
      simp

theorem isChain_linesWith_iff {items : List Parted}
    (first : ∀ item ∈ items.head?, item.apart = false) :
    (track id none (linesWith Parted.apart items)).IsChain
        (fun above below => OpensAtStart below.1 below.2 → above.2 = []) ↔
      (track Parted.line none items).IsChain fun above below =>
        below.2.apart = false → OpensAtStart below.1 below.2.line → above.2.line = [] := by
  cases items with
  | nil => exact iff_of_true List.isChain_nil List.isChain_nil
  | cons item items =>
    rw [linesWith_cons, first item rfl]
    exact isChain_track_linesWith (Fence.after none item.line) items none item

/-- Below a line of which nothing is left, and which is not empty, a fence is not set apart. -/
theorem isChain_track_iff {items : List Parted} (fence : Option Fence)
    (chosen : items.IsChain fun above below =>
      below.apart = (above.isLeft && Text.startsWith below.line "```")) :
    ((track Parted.line fence items).IsChain fun above below =>
        below.2.apart = false → OpensAtStart below.1 below.2.line → above.2.line = []) ↔
      (track Parted.line fence items).IsChain fun above below =>
        above.2.apart = true → above.2.line = "```".toList →
          ¬ OpensAtStart below.1 below.2.line := by
  rw [← map_snd_track Parted.line fence items, List.isChain_map] at chosen
  rw [List.isChain_iff_forall_rel_of_append_cons_cons] at chosen ⊢
  rw [List.isChain_iff_forall_rel_of_append_cons_cons]
  constructor
  · intro each above below before after split apart line opens
    have joined := chosen split
    rw [Parted.isLeft, if_pos apart, decide_eq_false (not_not_intro line), Bool.false_and] at joined
    have empty := each split joined opens
    rw [line] at empty
    exact absurd empty (by decide)
  · intro each above below before after split joined opens
    have left := chosen split
    rw [joined, opens.2.2, Bool.and_true, Parted.isLeft] at left
    cases apart : above.2.apart with
    | true =>
      rw [apart, if_pos rfl] at left
      exact absurd opens (each split apart (by simpa using left.symm))
    | false =>
      rw [apart, if_neg Bool.false_ne_true] at left
      simpa using left.symm

/-! ### Groups of lines -/

/-- The lines of a fence: the one that opens it, and those inside of it and at its end. -/
structure Group where
  opening : Parted
  inside : List Parted

def Group.lines (apart : Parted → Bool) (group : Group) : List Text :=
  group.opening.line :: linesWith apart group.inside

def Group.toSegment (apart : Parted → Bool) (group : Group) : Segment := ⟨true, group.lines apart⟩

def Group.add (group : Group) (item : Parted) : Group := ⟨group.opening, group.inside ++ [item]⟩

/-- The fences among the remaining lines, given the open one and its lines so far. -/
def groups : Option (Fence × Group) → List Parted → List Group
  | none, [] => []
  | some (_, group), [] => [group]
  | none, item :: items =>
    match Fence.opened? item.line with
    | some fence => groups (some (fence, ⟨item, []⟩)) items
    | none => groups none items
  | some (fence, group), item :: items =>
    if fence.closes item.line then group.add item :: groups none items
    else groups (some (fence, group.add item)) items

theorem groupFrom_gap (fence : Option Fence) (lines : List Text) (apart : Bool) (rest : List Text) :
    groupFrom fence lines (gap apart ++ rest) = groupFrom fence (lines ++ gap apart) rest := by
  cases apart with
  | false => exact congrArg (groupFrom fence · rest) (List.append_nil lines).symm
  | true => cases fence <;> rfl

theorem Group.lines_add (apart : Parted → Bool) (group : Group) (item : Parted) :
    (group.add item).lines apart = group.lines apart ++ gap (apart item) ++ [item.line] := by
  rw [lines, add, linesWith_append, linesWith_cons]
  simp [lines, linesWith]

theorem filter_prose (lines : List Text) : (Segment.prose lines).filter (·.fenced) = [] := by
  rw [Segment.prose]
  split <;> rfl

/-- Empty lines above some lines leave the fences as they are, each with such lines in it. -/
theorem filter_groupFrom (apart : Parted → Bool) (items : List Parted)
    (current : Option (Fence × Group)) (lines : List Text)
    (reached : ∀ found ∈ current, lines = found.2.lines apart) :
    (groupFrom (current.map Prod.fst) lines (linesWith apart items)).filter (·.fenced) =
      (groups current items).map (Group.toSegment apart) := by
  induction items generalizing current lines with
  | nil =>
    cases current with
    | none => exact filter_prose lines
    | some found =>
      rw [reached found rfl]
      rfl
  | cons item items inductionHypothesis =>
    rw [linesWith_cons, groupFrom_gap]
    cases current with
    | none =>
      rw [Option.map_none, Segment.groupFrom_none_cons, groups]
      cases opens : Fence.opened? item.line with
      | none => exact inductionHypothesis none _ forall_mem_none
      | some fence =>
        dsimp only
        rw [List.filter_append, filter_prose, List.nil_append]
        refine inductionHypothesis (some (fence, ⟨item, []⟩)) [item.line] fun found same => ?_
        obtain rfl := Option.some.inj same
        rfl
    | some found =>
      obtain ⟨fence, group⟩ := found
      have here := group.lines_add apart item
      rw [← reached _ rfl] at here
      rw [Option.map_some, Segment.groupFrom_some_cons, ← here, groups]
      cases ends : fence.closes item.line with
      | true =>
        rw [if_pos rfl, if_pos rfl, List.filter_cons_of_pos rfl, List.map_cons]
        exact congrArg (_ :: ·) (inductionHypothesis none [] forall_mem_none)
      | false =>
        rw [if_neg Bool.false_ne_true, if_neg Bool.false_ne_true]
        refine inductionHypothesis (some (fence, group.add item)) _ fun found same => ?_
        obtain rfl := Option.some.inj same
        rfl

/-! ### Whole groups -/

/-- A line that is set apart inside of a fence closes it. -/
def Group.IsWhole (group : Group) : Prop :=
  ∀ fence ∈ Fence.opened? group.opening.line, ∀ item ∈ group.inside, item.apart = true →
    fence.closes item.line = true

/-- A group of lines that goes on inside of its fence. -/
structure Group.IsOpen (fence : Fence) (group : Group) : Prop where
  opens : Fence.opened? group.opening.line = some fence
  inside : ∀ item ∈ group.inside, fence.closes item.line = false
  sound : ∀ item ∈ group.inside, item.IsSound

/-- A group of lines that ends with the one that closes its fence, or with the text. -/
structure Group.IsFence (group : Group) (fence : Fence) (body : List Parted)
    (closing : Option Parted) : Prop where
  opens : Fence.opened? group.opening.line = some fence
  inside_eq : group.inside = body ++ closing.toList
  inside : ∀ item ∈ body, fence.closes item.line = false
  ends : ∀ item ∈ closing, fence.closes item.line = true
  sound : ∀ item ∈ body, item.IsSound

section Open

variable {fence : Fence} {group : Group} (isOpen : group.IsOpen fence) {item : Parted}
include isOpen

theorem Group.IsOpen.isFence : group.IsFence fence group.inside none where
  opens := isOpen.opens
  inside_eq := (List.append_nil _).symm
  inside := isOpen.inside
  ends := forall_mem_none
  sound := isOpen.sound

theorem Group.IsOpen.isFence_add (ends : fence.closes item.line = true) :
    (group.add item).IsFence fence group.inside (some item) where
  opens := isOpen.opens
  inside_eq := rfl
  inside := isOpen.inside
  ends := fun last same => by
    obtain rfl := Option.some.inj same
    exact ends
  sound := isOpen.sound

theorem Group.IsOpen.add (goesOn : fence.closes item.line = false) (sound : item.IsSound) :
    (group.add item).IsOpen fence where
  opens := isOpen.opens
  inside := List.forall_mem_append.2 ⟨isOpen.inside, List.forall_mem_singleton.2 goesOn⟩
  sound := List.forall_mem_append.2 ⟨isOpen.sound, List.forall_mem_singleton.2 sound⟩

omit item in
theorem Group.IsOpen.isWhole_add_iff (item : Parted) : (group.add item).IsWhole ↔
    group.IsWhole ∧ (item.apart = true → fence.closes item.line = true) := by
  have opens : Fence.opened? (group.add item).opening.line = some fence := isOpen.opens
  simp only [Group.IsWhole, opens, isOpen.opens, Option.mem_some_iff, forall_eq']
  exact List.forall_mem_append.trans (and_congr_right' List.forall_mem_singleton)

end Open

theorem Group.isOpen_opening {item : Parted} {fence : Fence}
    (opens : Fence.opened? item.line = some fence) : (Group.mk item []).IsOpen fence :=
  ⟨opens, List.forall_mem_nil _, List.forall_mem_nil _⟩

theorem Group.isWhole_opening (item : Parted) : (Group.mk item []).IsWhole :=
  fun _ _ => List.forall_mem_nil _

theorem isFence_of_mem_groups {current : Option (Fence × Group)} {items : List Parted}
    (started : ∀ found ∈ current, found.2.IsOpen found.1) (sound : ∀ item ∈ items, item.IsSound)
    {group : Group} (member : group ∈ groups current items) :
    ∃ fence body closing, group.IsFence fence body closing := by
  induction items generalizing current with
  | nil =>
    cases current with
    | none => exact absurd member List.not_mem_nil
    | some found =>
      obtain rfl := List.mem_singleton.1 member
      exact ⟨_, _, _, (started found rfl).isFence⟩
  | cons item items inductionHypothesis =>
    rw [List.forall_mem_cons] at sound
    cases current with
    | none =>
      rw [groups] at member
      cases opens : Fence.opened? item.line with
      | none =>
        rw [opens] at member
        exact inductionHypothesis forall_mem_none sound.2 member
      | some fence =>
        rw [opens] at member
        refine inductionHypothesis (fun found same => ?_) sound.2 member
        obtain rfl := Option.some.inj same
        exact Group.isOpen_opening opens
    | some found =>
      have isOpen := started found rfl
      rw [groups] at member
      cases ends : found.1.closes item.line with
      | true =>
        rw [if_pos ends] at member
        rcases List.mem_cons.1 member with rfl | later
        · exact ⟨_, _, _, isOpen.isFence_add ends⟩
        · exact inductionHypothesis forall_mem_none sound.2 later
      | false =>
        rw [if_neg (Bool.eq_false_iff.1 ends)] at member
        refine inductionHypothesis (fun next same => ?_) sound.2 member
        obtain rfl := Option.some.inj same
        exact isOpen.add ends sound.1

/-- The groups are whole if every line that is set apart below an open fence closes it. -/
theorem forall_isWhole_iff (items : List Parted) (current : Option (Fence × Group))
    (started : ∀ found ∈ current, found.2.IsOpen found.1) (sound : ∀ item ∈ items, item.IsSound) :
    (∀ group ∈ groups current items, group.IsWhole) ↔ (∀ found ∈ current, found.2.IsWhole) ∧
      ∀ entry ∈ track Parted.line (current.map Prod.fst) items, entry.2.apart = true →
        ∀ fence ∈ entry.1, fence.closes entry.2.line = true := by
  induction items generalizing current with
  | nil => cases current <;> simp [groups, track]
  | cons item items inductionHypothesis =>
    rw [List.forall_mem_cons] at sound
    have closed := (inductionHypothesis none forall_mem_none sound.2).trans
      (and_iff_right forall_mem_none)
    rw [track, List.forall_mem_cons]
    cases current with
    | none =>
      rw [groups, Option.map_none, and_iff_right forall_mem_none,
        and_iff_right fun _ => forall_mem_none, Fence.after]
      cases opens : Fence.opened? item.line with
      | none => exact closed
      | some fence =>
        refine (inductionHypothesis (some (fence, ⟨item, []⟩)) (fun found same => ?_) sound.2).trans
          (and_iff_right fun found same => ?_)
        · obtain rfl := Option.some.inj same
          exact Group.isOpen_opening opens
        · obtain rfl := Option.some.inj same
          exact Group.isWhole_opening item
    | some found =>
      obtain ⟨fence, group⟩ := found
      have isOpen := started _ rfl
      have whole := isOpen.isWhole_add_iff item
      rw [groups, Option.map_some, Fence.after]
      simp only [Option.mem_some_iff, forall_eq']
      rw [← and_assoc, ← whole]
      cases ends : fence.closes item.line with
      | true =>
        rw [if_pos rfl, if_pos rfl, List.forall_mem_cons]
        exact and_congr_right' closed
      | false =>
        rw [if_neg Bool.false_ne_true, if_neg Bool.false_ne_true]
        refine (inductionHypothesis (some (fence, group.add item)) (fun next same => ?_)
          sound.2).trans ?_
        · obtain rfl := Option.some.inj same
          exact isOpen.add ends sound.1
        · simp only [Option.mem_some_iff, forall_eq', Option.map_some]

/-! ### Bodies -/

theorem trimEnd_append (first second : Text) : Text.trimEnd (first ++ second) =
    if (Text.trimEnd second).isEmpty then Text.trimEnd first else first ++ Text.trimEnd second := by
  simp only [Text.trimEnd, Text.dropEnd, List.reverse_append, List.dropWhile_append,
    List.isEmpty_reverse]
  split
  · rfl
  · rw [List.reverse_append, List.reverse_reverse]

theorem trimEnd_append_cancel {before first second : Text}
    (same : Text.trimEnd (before ++ first) = Text.trimEnd (before ++ second)) :
    Text.trimEnd first = Text.trimEnd second := by
  have short := (Text.isPrefix_dropEnd Text.isBlank before).length_le
  rw [← Text.trimEnd] at short
  rw [trimEnd_append, trimEnd_append] at same
  split at same
  · rename_i none'
    split at same
    · rename_i none''
      rw [List.isEmpty_iff.1 none', List.isEmpty_iff.1 none'']
    · rename_i filled
      rw [same, List.length_append] at short
      exact absurd (List.isEmpty_iff.2 (List.length_eq_zero_iff.1 (by omega))) filled
  · rename_i filled
    split at same
    · rw [← same, List.length_append] at short
      exact absurd (List.isEmpty_iff.2 (List.length_eq_zero_iff.1 (by omega))) filled
    · exact List.append_cancel_left same

theorem exists_trimEnd_cons {c : Char} (inked : Text.isBlank c = false) (rest : Text) :
    ∃ after, Text.trimEnd (c :: rest) = c :: after := by
  have split := trimEnd_append [c] rest
  have alone : Text.trimEnd [c] = [c] := by
    simp [Text.trimEnd, Text.dropEnd, inked]
  rw [alone] at split
  split at split
  · exact ⟨[], split⟩
  · exact ⟨_, split⟩

/-- An empty line above a fence does not come off with the blanks at the end of a text. -/
theorem trimEnd_break_ne {line : Text} (fence : Text.startsWith line "```" = true)
    (first second : Text) :
    Text.trimEnd ('\n' :: (line ++ first)) ≠ Text.trimEnd (line ++ second) := by
  obtain ⟨rest, rfl⟩ := List.isPrefixOf_iff_prefix.1 fence
  have inked : Text.isBlank '`' = false := by decide
  obtain ⟨left, leftEq⟩ := exists_trimEnd_cons inked ('`' :: '`' :: (rest ++ first))
  obtain ⟨right, rightEq⟩ := exists_trimEnd_cons inked ('`' :: '`' :: (rest ++ second))
  have above := trimEnd_append ['\n'] ('`' :: '`' :: '`' :: (rest ++ first))
  rw [leftEq, List.isEmpty_cons, if_neg Bool.false_ne_true] at above
  intro same
  exact absurd (List.cons.inj (above.symm.trans (same.trans rightEq))).1 (by decide)

theorem trimEnd_ended_append_gap (lines : List Text) (apart : Bool) :
    Text.trimEnd (Text.ended (lines ++ gap apart)) = Text.trimEnd (Text.ended lines) := by
  cases apart with
  | false => exact congrArg (fun lines => Text.trimEnd (Text.ended lines)) (List.append_nil lines)
  | true =>
    rw [Text.ended_append]
    exact trimEnd_append (Text.ended lines) ['\n']

/-- Where something is set apart, more changes than the blanks at the end. -/
theorem trimEnd_ended_iff {items : List Parted} (sound : ∀ item ∈ items, item.IsSound) :
    Text.trimEnd (Text.ended (linesWith Parted.apart items)) =
        Text.trimEnd (Text.ended (linesWith (fun _ => false) items)) ↔
      ∀ item ∈ items, item.apart = false := by
  constructor
  · intro same
    induction items with
    | nil => exact List.forall_mem_nil _
    | cons item items inductionHypothesis =>
      rw [List.forall_mem_cons] at sound ⊢
      rw [linesWith_cons, linesWith_cons] at same
      cases apart : item.apart with
      | true =>
        refine absurd ?_ (trimEnd_break_ne (sound.1 apart)
          ('\n' :: Text.ended (linesWith Parted.apart items))
          ('\n' :: Text.ended (linesWith (fun _ => false) items)))
        simpa [apart, gap] using same
      | false =>
        have split (lines : List Text) : Text.ended (gap false ++ item.line :: lines) =
            (item.line ++ ['\n']) ++ Text.ended lines := by
          simp [gap]
        rw [apart, split, split] at same
        exact ⟨rfl, inductionHypothesis sound.2 (trimEnd_append_cancel same)⟩
  · intro joined
    have same : linesWith Parted.apart items = linesWith (fun _ => false) items :=
      List.flatMap_congr fun item member => by rw [joined item member]
    rw [same]

/-! ### Fences that stay the same -/

theorem IsFence.unique {segment : Segment} {opening opening' : Text} {body body' : List Text}
    {closing closing' : Option Text} (first : IsFence segment opening body closing)
    (second : IsFence segment opening' body' closing') :
    opening = opening' ∧ body = body' ∧ closing = closing' := by
  obtain ⟨same, lines⟩ := List.cons.inj (first.lines.symm.trans second.lines)
  obtain ⟨fence, opens, inside, ends⟩ := first.marks
  obtain ⟨fence', opens', inside', ends'⟩ := second.marks
  obtain rfl := Option.some.inj (opens.symm.trans ((congrArg Fence.opened? same).trans opens'))
  refine ⟨same, ?_⟩
  cases closing with
  | none =>
    cases closing' with
    | none =>
      rw [Option.toList_none, List.append_nil, List.append_nil] at lines
      exact ⟨lines, rfl⟩
    | some last =>
      rw [Option.toList_none, List.append_nil, Option.toList_some] at lines
      have goesOn := inside last (lines ▸ List.mem_append_right _ List.mem_cons_self)
      exact absurd (goesOn.symm.trans (ends' last rfl)) Bool.false_ne_true
  | some last =>
    cases closing' with
    | none =>
      rw [Option.toList_none, List.append_nil, Option.toList_some] at lines
      have goesOn := inside' last (lines ▸ List.mem_append_right _ List.mem_cons_self)
      exact absurd (goesOn.symm.trans (ends last rfl)) Bool.false_ne_true
    | some last' =>
      obtain ⟨bodies, lasts⟩ := List.append_inj' lines rfl
      exact ⟨bodies, congrArg some (List.cons.inj lasts).1⟩

section Groups

variable {group : Group} {fence : Fence} {body : List Parted} {closing : Option Parted}
  (isFence : group.IsFence fence body closing)
include isFence

/-- The body of a fence takes in the empty line above the line that closes it. -/
theorem Group.IsFence.toSegment (apart : Parted → Bool) :
    Prose.IsFence (group.toSegment apart) group.opening.line
      (linesWith apart body ++ gap (closing.any apart)) (closing.map Parted.line) where
  lines := by
    rw [Group.toSegment, Group.lines, isFence.inside_eq, linesWith_append, List.append_assoc]
    cases closing <;> simp [linesWith, gap]
  marks := by
    have goesOn : fence.closes [] = false := rfl
    refine ⟨fence, isFence.opens,
      List.forall_mem_append.2 ⟨fun line member => ?_, fun line member => ?_⟩,
      fun line member => ?_⟩
    · rcases mem_linesWith member with rfl | inLines
      · exact goesOn
      · obtain ⟨item, inBody, rfl⟩ := List.mem_map.1 inLines
        exact isFence.inside item inBody
    · rw [eq_nil_of_mem_gap member]
      exact goesOn
    · obtain ⟨item, last, rfl⟩ := Option.map_eq_some_iff.1 member
      exact isFence.ends item last

theorem Group.IsFence.isWhole_iff : group.IsWhole ↔ ∀ item ∈ body, item.apart = false := by
  simp only [Group.IsWhole, isFence.opens, Option.mem_some_iff, forall_eq', isFence.inside_eq]
  constructor
  · intro whole item member
    by_contra apart
    rw [Bool.not_eq_false] at apart
    have ends := whole item (List.mem_append_left _ member) apart
    exact absurd ((isFence.inside item member).symm.trans ends) Bool.false_ne_true
  · intro joined item member apart
    rcases List.mem_append.1 member with inBody | last
    · exact absurd ((joined item inBody).symm.trans apart) Bool.false_ne_true
    · exact isFence.ends item (Option.mem_toList.1 last)

/-- A fence stays the same if nothing in it is set apart but the line that closes it. -/
theorem Group.IsFence.sameFence_iff :
    SameFence (group.toSegment fun _ => false) (group.toSegment Parted.apart) ↔ group.IsWhole := by
  have old := isFence.toSegment fun _ => false
  have new := isFence.toSegment Parted.apart
  rw [isFence.isWhole_iff, ← trimEnd_ended_iff isFence.sound]
  constructor
  · rintro ⟨opening, oldBody, newBody, closing, first, second, same⟩
    obtain ⟨-, rfl, -⟩ := first.unique old
    obtain ⟨-, rfl, -⟩ := second.unique new
    rwa [trimEnd_ended_append_gap, trimEnd_ended_append_gap] at same
  · intro same
    refine ⟨_, _, _, _, old, new, ?_⟩
    rwa [trimEnd_ended_append_gap, trimEnd_ended_append_gap]

end Groups

section Prepared

variable (text : Text)

theorem linesWith_parted :
    linesWith (fun _ => false) (parted text) = Text.lines text :=
  (linesWith_false _).trans (map_line_partedFrom false _)

theorem apart_head?_parted : ∀ item ∈ (parted text).head?, item.apart = false := by
  intro item found
  rw [parted] at found
  cases lines : Text.lines text with
  | nil => exact absurd lines (Text.lines_ne_nil text)
  | cons line rest =>
    rw [lines] at found
    obtain rfl := Option.some.inj found
    rfl

theorem isChain_prepare_iff :
    ((track id none (Text.lines (prepare text))).IsChain fun above below =>
        OpensAtStart below.1 below.2 → above.2 = []) ↔
      (track Parted.line none (parted (Text.normalizeBreaks text))).IsChain fun above below =>
        above.2.apart = true → above.2.line = "```".toList →
          ¬ OpensAtStart below.1 below.2.line := by
  rw [lines_prepare]
  exact (isChain_linesWith_iff (apart_head?_parted _)).trans
    (isChain_track_iff none (isChain_partedFrom false _))

theorem sameFences_prepare_iff :
    List.Forall₂ SameFence ((Segment.ofText (Text.normalizeBreaks text)).filter (·.fenced))
        ((Segment.ofText (prepare text)).filter (·.fenced)) ↔
      ∀ entry ∈ track Parted.line none (parted (Text.normalizeBreaks text)),
        entry.2.apart = true → ∀ fence ∈ entry.1, fence.closes entry.2.line = true := by
  rw [Segment.ofText, Segment.ofText, lines_prepare]
  generalize Text.normalizeBreaks text = source
  have sound : ∀ item ∈ parted source, item.IsSound := fun item => isSound_of_mem_partedFrom
  have fences (apart : Parted → Bool) :
      (groupFrom none [] (linesWith apart (parted source))).filter (·.fenced) =
        (groups none (parted source)).map (Group.toSegment apart) :=
    filter_groupFrom apart (parted source) none [] forall_mem_none
  rw [← linesWith_parted, fences, fences, List.forall₂_map_left_iff, List.forall₂_map_right_iff,
    List.forall₂_same]
  refine Iff.trans (forall₂_congr fun group member => ?_)
    ((forall_isWhole_iff (parted source) none forall_mem_none sound).trans
      (and_iff_right forall_mem_none))
  obtain ⟨_, _, _, isFence⟩ := isFence_of_mem_groups forall_mem_none sound member
  exact isFence.sameFence_iff

theorem respaced_prepare :
    Respaced (Text.lines (Text.normalizeBreaks text)) (Text.lines (prepare text)) := by
  rw [lines_prepare, ← linesWith_parted (Text.normalizeBreaks text), linesWith_false]
  exact respaced_linesWith Parted.apart _

/-- Setting fences apart does what it is to do exactly on the texts that are well parted. -/
theorem onlySeparates_iff : OnlySeparates (Text.normalizeBreaks text) (prepare text) ↔
    IsWellParted (parted (Text.normalizeBreaks text)) := by
  constructor
  · intro only
    exact ⟨(sameFences_prepare_iff text).1 only.fences, (isChain_prepare_iff text).1 only.apart⟩
  · intro whole
    exact ⟨(isChain_prepare_iff text).2 whole.outside,
      (sameFences_prepare_iff text).2 whole.inside, respaced_prepare text⟩

end Prepared

/-- A fence below a line, and one below an empty line. -/
example : IsWellParted (parted "a\n```js\nb\n```\n\n```\nc\n```") := ⟨by decide, by decide⟩

/-- Backticks in a fence of tildes, and two fences of backticks one right below the other. -/
theorem exists_fence_changed :
    ¬ OnlySeparates (Text.normalizeBreaks "~~~\na\n```\n~~~") (prepare "~~~\na\n```\n~~~") ∧
      ¬ OnlySeparates (Text.normalizeBreaks "```\nx\n```\n```\ny\n```")
        (prepare "```\nx\n```\n```\ny\n```") := by
  constructor
  · intro only
    have ends := (sameFences_prepare_iff _).1 only.fences (some ⟨'~', 3⟩, ⟨true, "```"⟩)
      (by decide) rfl ⟨'~', 3⟩ rfl
    exact absurd ends (by decide)
  · intro only
    exact absurd ((isChain_prepare_iff _).1 only.apart) (by decide)

end Prose

end CampaignPress
