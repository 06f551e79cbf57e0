/-
This file tells the tags of mechanics from their shape. The shape of a directive
is its kind and whether its dice match, and that of a block the tree of its nodes;
no name, value or address is part of one. What is shown for mechanics has the
outline of the shape, so no text of a campaign brings in a tag of its own.
-/
import CampaignPress.Mechanics.Block
import CampaignPress.Proofs.Icon
import CampaignPress.Proofs.Mechanics.Inline

namespace CampaignPress

open Html (around isClean)

theorem Html.shows_number {value : Int} {html : Html} (shown : number value = .ok html) :
    html.Shows [] := by
  obtain ⟨content, -, rfl⟩ := exists_of_number shown
  exact shows_plainText content

/-! ### Anchors -/

namespace Link

/-- An anchor has a class if it is given one. -/
theorem shows_anchor {classes : Text} (clean : isClean classes) (base text slug : Text) :
    (anchor base classes text slug).Shows
      (around "a" (if classes.isEmpty then " href=" else " href= class=") []) := by
  rw [anchor]
  cases classes with
  | nil => exact (Html.shows_text text).element (by decide) rfl
  | cons c rest =>
    refine (Html.shows_text text).element (by decide) ?_
    show (true && ((true && isClean (c :: rest)) && true)) = true
    rw [clean]
    rfl

end Link

/-! ### Directives -/

namespace Directive

open Html (classed plainText)

/-- What is recognised in the code of a directive. -/
inductive Shape where
  | malformed
  /-- The kind, and whether the dice of a move match. -/
  | known (kind : Kind) (matched : Bool)
  deriving DecidableEq, Repr

def spanOutline (inner : List Text) : List Text := around "span" " class=" inner

def bareOutline : List Text := around "span" [] []

def linkOutline : List Text := around "a" " href= class=" []

def diceOutline : List Text :=
  bareOutline ++ spanOutline [] ++ bareOutline ++ spanOutline [] ++ bareOutline ++ spanOutline []

def iconOutline (icon : Text) : List Text := spanOutline ((Html.tags icon).map Html.Tag.outline)

/-- The outlines of the tags of a shape, with the icons of the standard table. -/
def Shape.outline : Shape → List Text
  | .malformed => spanOutline []
  | .known .move matched =>
    spanOutline (spanOutline [] ++ spanOutline [] ++ spanOutline [] ++ diceOutline ++
      if matched then spanOutline [] else [])
  | .known .oracle _ => spanOutline (spanOutline [] ++ bareOutline ++ spanOutline [])
  | .known .meter _ => spanOutline (spanOutline [] ++ spanOutline [])
  | .known .initiative _ => spanOutline (spanOutline [] ++ spanOutline [])
  | .known .trackCreate _ => spanOutline (iconOutline IconTable.standard.trackCreate ++ linkOutline)
  | .known .trackAdvance _ =>
    spanOutline (iconOutline IconTable.standard.trackAdvance ++ linkOutline ++ spanOutline [])
  | .known .progress _ => spanOutline (spanOutline [] ++ spanOutline [] ++ diceOutline)
  | .known .noRoll _ => spanOutline (spanOutline [])
  | .known .entityCreate _ =>
    spanOutline (iconOutline IconTable.standard.entityCreate ++ spanOutline [] ++ linkOutline)

def isMatch : Directive → Bool
  | .move record => record.roll.isMatch
  | _ => false

/-- The shape of code that is a directive. -/
def shape? (code : Text) : Option Shape :=
  (read? code).map fun
    | .error _ => .malformed
    | .ok directive => .known directive.kind directive.isMatch

/-! ### Parts -/

theorem shows_span {content : Html} {inner : List Text} (shows : content.Shows inner)
    {classes : Text} (clean : isClean classes) : (span classes content).Shows (spanOutline inner) :=
  shows.classed (by decide) clean

/-- A span around plain text. -/
theorem shows_textSpan (content : Text) {classes : Text} (clean : isClean classes) :
    (span classes (plainText content)).Shows (spanOutline []) :=
  shows_span (Html.shows_plainText content) clean

theorem shows_bare (content : Text) : (bare content).Shows bareOutline :=
  (Html.shows_text content).element (by decide) rfl

theorem isClean_classes (roll : Roll) : isClean (classList (mechanics :: roll.classes)) := by
  rw [Roll.classes]
  cases roll.outcome <;> cases roll.isMatch <;> decide

theorem shows_icon {icon : Text} (markup : Html.isMarkup icon) {classes : Text}
    (clean : isClean classes) : (span classes [.verbatim icon]).Shows (iconOutline icon) := by
  refine shows_span ⟨?_, List.flatMap_singleton _ _⟩ clean
  rw [Html.isSafe, List.all_cons, Html.Piece.isClean, markup]
  rfl

theorem shows_dice {roll : Roll} {score versus : Text} {html : Html}
    (shown : dice roll score versus = .ok html) : html.Shows diceOutline := by
  obtain ⟨whole, wholeShown, shown⟩ := bind_eq_ok.1 shown
  obtain ⟨first, firstShown, shown⟩ := bind_eq_ok.1 shown
  obtain ⟨second, secondShown, shown⟩ := bind_eq_ok.1 shown
  obtain rfl := Except.ok.inj shown
  rw [diceOutline]
  refine .append (.append (.append (.append (.append (shows_bare score) ?_) (shows_bare versus)) ?_)
    (shows_bare _)) ?_
  · exact shows_span (Html.shows_number wholeShown) (by decide)
  · exact shows_span (Html.shows_number firstShown) (by decide)
  · exact shows_span (Html.shows_number secondShown) (by decide)

theorem shows_link (site : Site) {classes : Text} (clean : isClean classes) (name path : Text) :
    (link site classes name path).Shows linkOutline := by
  have marked : (classes ++ " iv-inline-link".toList).isEmpty = false := by
    rw [List.isEmpty_eq_false_iff]
    exact List.append_ne_nil_of_right_ne_nil _ (by decide)
  have cleanWhole : isClean (classes ++ " iv-inline-link".toList) := by
    rw [Html.isClean_append, clean]
    decide
  have shows := Link.shows_anchor cleanWhole site.base name (site.index.slugOfPath path)
  rwa [marked] at shows

/-! ### Directives by their kind -/

theorem Move.shows_toHtml {move : Move} {html : Html} (shown : move.toHtml = .ok html) :
    html.Shows (Shape.known .move move.roll.isMatch).outline := by
  obtain ⟨dice, diceShown, shown⟩ := bind_eq_ok.1 shown
  obtain rfl := Except.ok.inj shown
  refine shows_span (.append (.append (.append (.append ?_ ?_) ?_) (shows_dice diceShown)) ?_)
    (isClean_classes move.roll)
  · exact shows_textSpan _ (by decide)
  · exact shows_textSpan _ (by decide)
  · exact shows_span Html.shows_nil (by decide)
  · cases move.roll.isMatch with
    | true => exact shows_textSpan _ (by decide)
    | false => exact Html.shows_nil

theorem Oracle.shows_toHtml (oracle : Oracle) :
    oracle.toHtml.Shows (Shape.known .oracle false).outline := by
  refine shows_span (.append (.append ?_ (shows_bare _)) ?_) (by decide)
  · exact shows_textSpan _ (by decide)
  · exact shows_textSpan _ (by decide)

theorem Meter.shows_toHtml {meter : Meter} {html : Html} (shown : meter.toHtml = .ok html) :
    html.Shows (Shape.known .meter false).outline := by
  obtain ⟨start, startShown, shown⟩ := bind_eq_ok.1 shown
  obtain ⟨stop, stopShown, shown⟩ := bind_eq_ok.1 shown
  obtain rfl := Except.ok.inj shown
  refine shows_span (.append ?_ ?_) ?_
  · exact shows_textSpan _ (by decide)
  · have changed := (Html.shows_number startShown).append_nil (Html.shows_plainText " → ")
    exact shows_span (changed.append_nil (Html.shows_number stopShown)) (by decide)
  · split
    · decide
    · split <;> decide

theorem Initiative.shows_toHtml (initiative : Initiative) : initiative.toHtml.Shows
    (Shape.known .initiative false).outline := by
  refine shows_span (.append ?_ ?_) ?_
  · exact shows_textSpan _ (by decide)
  · exact shows_textSpan _ (by decide)
  · split <;> decide

section Icons

variable {site : Site} (icons : site.icons = .standard)
include icons

theorem TrackCreate.shows_toHtml (track : TrackCreate) : (track.toHtml site).Shows
    (Shape.known .trackCreate false).outline := by
  rw [toHtml, icons]
  refine shows_span (.append ?_ ?_) (by decide)
  · exact shows_icon IconTable.isMarkup_trackCreate (by decide)
  · exact shows_link site (by decide) track.name track.path

theorem TrackAdvance.shows_toHtml {track : TrackAdvance} {html : Html}
    (shown : track.toHtml site = .ok html) :
    html.Shows (Shape.known .trackAdvance false).outline := by
  obtain ⟨steps, stepsShown, shown⟩ := bind_eq_ok.1 shown
  obtain ⟨boxes, boxesShown, shown⟩ := bind_eq_ok.1 shown
  obtain rfl := Except.ok.inj shown
  rw [icons]
  refine shows_span (.append (.append ?_ ?_) (shows_span ?_ (by decide))) (by decide)
  · exact shows_icon IconTable.isMarkup_trackAdvance (by decide)
  · exact shows_link site (by decide) track.name track.path
  · have advanced := ((Html.shows_plainText " +").append_nil (Html.shows_number stepsShown)).append_nil
      (Html.shows_plainText " (")
    exact (((advanced.append_nil (Html.shows_number boxesShown)).append_nil
      (Html.shows_plainText _)).append_nil (Html.shows_plainText _)).append_nil
        (Html.shows_plainText _)

theorem EntityCreate.shows_toHtml (entity : EntityCreate) : (entity.toHtml site).Shows
    (Shape.known .entityCreate false).outline := by
  rw [toHtml, icons]
  refine shows_span (.append (.append ?_ ?_) ?_) (by decide)
  · exact shows_icon IconTable.isMarkup_entityCreate (by decide)
  · exact shows_textSpan _ (by decide)
  · exact shows_link site (by decide) entity.name entity.path

end Icons

theorem Progress.shows_toHtml {progress : Progress} {html : Html}
    (shown : progress.toHtml = .ok html) :
    html.Shows (Shape.known .progress false).outline := by
  obtain ⟨dice, diceShown, shown⟩ := bind_eq_ok.1 shown
  obtain rfl := Except.ok.inj shown
  refine shows_span (.append (.append ?_ ?_) (shows_dice diceShown)) (isClean_classes progress.roll)
  · exact shows_textSpan _ (by decide)
  · exact shows_span Html.shows_nil (by decide)

theorem NoRoll.shows_toHtml (move : NoRoll) : move.toHtml.Shows
    (Shape.known .noRoll false).outline :=
  shows_span (shows_textSpan _ (by decide)) (by decide)

/-- A directive has the outline of its kind, and a move that of its dice. -/
theorem shows_toHtml {site : Site} (icons : site.icons = .standard) {directive : Directive}
    {html : Html} (shown : directive.toHtml site = .ok html) :
    html.Shows (Shape.known directive.kind directive.isMatch).outline := by
  cases directive with
  | move record => exact record.shows_toHtml shown
  | oracle record => exact Except.ok.inj shown ▸ record.shows_toHtml
  | meter record => exact record.shows_toHtml shown
  | initiative record => exact Except.ok.inj shown ▸ record.shows_toHtml
  | trackCreate record => exact Except.ok.inj shown ▸ record.shows_toHtml icons
  | trackAdvance record => exact record.shows_toHtml icons shown
  | progress record => exact record.shows_toHtml shown
  | noRoll record => exact Except.ok.inj shown ▸ record.shows_toHtml
  | entityCreate record => exact Except.ok.inj shown ▸ record.shows_toHtml icons

/-- Code is shown with the outline of its shape. -/
theorem shows_renderCode? {site : Site} (icons : site.icons = .standard) {code : Text} {html : Html}
    (shown : renderCode? site code = some (.ok html)) : ∃ shape, shape? code = some shape ∧
      html.Shows shape.outline := by
  obtain ⟨outcome, read, shown⟩ := Option.map_eq_some_iff.1 shown
  cases outcome with
  | error error =>
    obtain rfl := Except.ok.inj shown
    exact ⟨.malformed, by rw [shape?, read]; rfl, shows_textSpan _ (by decide)⟩
  | ok directive =>
    exact ⟨_, by rw [shape?, read]; rfl, shows_toHtml icons shown⟩

end Directive

end CampaignPress
