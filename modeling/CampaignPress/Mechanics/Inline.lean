/-
This file shows directives as HTML inside a line. The class names are those
that the stylesheets of the game's note plugin expect.
-/
import CampaignPress.Link
import CampaignPress.Mechanics.Directive
import CampaignPress.Site

namespace CampaignPress

namespace Directive

open Html (classed plainText)

/-! ### Parts -/

def classList (classes : List Text) : Text := Text.join " " classes

def span (classes : Text) (content : Html) : Html := classed "span" classes content

def bare (content : Text) : Html := Html.element "span" [] [.text content]

def dice (roll : Roll) (score versus : Text) : Except Fault Html := do
  return bare score ++ span "iv-inline-score" (← Html.number roll.score) ++ bare versus ++
    span "iv-inline-challenge-die vs1" (← Html.number roll.first) ++ bare "|" ++
    span "iv-inline-challenge-die vs2" (← Html.number roll.second)

def mechanics : Text := "iv-inline-mechanics"

def link (site : Site) (classes name path : Text) : Html :=
  Link.anchor site.base (classes ++ " iv-inline-link") name (site.index.slugOfPath path)

def trackMark (icon : Text) : Html := span "iv-inline-track-icon" [.verbatim icon]

/-! ### Kinds -/

def Move.toHtml (move : Move) : Except Fault Html := do
  let roll := move.roll
  let agreement := if roll.isMatch then span "iv-inline-match" (plainText "match") else []
  return span (classList (mechanics :: roll.classes))
    (span "iv-inline-move-name iv-inline-link" (plainText move.name) ++
      span "iv-inline-stat" (plainText ("(" ++ move.stat ++ ")")) ++
      span "iv-inline-outcome-icon" [] ++ (← dice roll ";" "vs") ++ agreement)

def Oracle.toHtml (oracle : Oracle) : Html :=
  span (mechanics ++ " oracle")
    (span "iv-inline-oracle-name iv-inline-link" (plainText oracle.name) ++
      bare ("(" ++ oracle.roll ++ ")") ++
      span "iv-inline-oracle-result" (plainText oracle.result))

def Meter.toHtml (meter : Meter) : Except Fault Html := do
  let direction : List Text :=
    if 0 < meter.change then ["meter-increase"]
    else if meter.change < 0 then ["meter-decrease"]
    else []
  return span (classList (mechanics :: direction))
    (span "iv-inline-meter-name" (plainText (meter.name ++ ":")) ++
      span "iv-inline-meter-change"
        ((← Html.number meter.start) ++ plainText " → " ++ (← Html.number meter.stop)))

def Initiative.toHtml (initiative : Initiative) : Html :=
  let control : Text :=
    if initiative.inControl then "initiative-control" else "initiative-bad-spot"
  span (classList [mechanics, control])
    (span "iv-inline-initiative-label" (plainText (initiative.label ++ ":")) ++
      span "iv-inline-initiative-state" (plainText initiative.state))

def TrackCreate.toHtml (site : Site) (track : TrackCreate) : Html :=
  span (mechanics ++ " track-create")
    (trackMark site.icons.trackCreate ++
      link site "iv-inline-track-name" track.name track.path)

def TrackAdvance.toHtml (site : Site) (track : TrackAdvance) :
    Except Fault Html := do
  return span (mechanics ++ " track-advance")
    (trackMark site.icons.trackAdvance ++
      link site "iv-inline-track-name" track.name track.path ++
      span "iv-inline-track-progress"
        (plainText " +" ++ (← Html.number track.steps) ++ plainText " (" ++
          (← Html.number track.boxes) ++ plainText "/" ++
          plainText (Nat.toDigits 10 boxesPerTrack) ++ plainText ")"))

def Progress.toHtml (progress : Progress) : Except Fault Html := do
  let roll := progress.roll
  return span (classList (mechanics :: roll.classes))
    (span "iv-inline-progress-name iv-inline-link" (plainText progress.name) ++
      span "iv-inline-outcome-icon" [] ++ (← dice roll "; " " vs "))

def NoRoll.toHtml (move : NoRoll) : Html :=
  span (mechanics ++ " no-roll")
    (span "iv-inline-move-name iv-inline-link" (plainText move.name))

def EntityCreate.toHtml (site : Site) (entity : EntityCreate) : Html :=
  span (mechanics ++ " entity-create")
    (span "iv-inline-entity-icon" [.verbatim site.icons.entityCreate] ++
      span "iv-inline-entity-type" (plainText (entity.entity ++ ":")) ++
      link site "iv-inline-entity-name" entity.name entity.path)

def toHtml (site : Site) : Directive → Except Fault Html
  | .move record => record.toHtml
  | .oracle record => .ok record.toHtml
  | .meter record => record.toHtml
  | .initiative record => .ok record.toHtml
  | .trackCreate record => .ok (record.toHtml site)
  | .trackAdvance record => record.toHtml site
  | .progress record => record.toHtml
  | .noRoll record => .ok record.toHtml
  | .entityCreate record => .ok (record.toHtml site)

/-! ### Code -/

/-- What stands for a directive that lacks a field. -/
def malformed (code : Text) : Html := span (mechanics ++ " iv-parse-error") (plainText code)

/-- The HTML of inline code, or nothing where it is no directive. -/
def renderCode? (site : Site) (code : Text) : Option (Except Fault Html) :=
  (read? code).map fun
    | .error _ => .ok (malformed code)
    | .ok directive => directive.toHtml site

end Directive

end CampaignPress
