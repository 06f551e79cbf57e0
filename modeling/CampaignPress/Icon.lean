/-
This file holds the icons that mark callouts and inline mechanics, and the table
that chooses among them. The drawings are those of the Lucide set.
-/
import CampaignPress.Text.Case

namespace CampaignPress

namespace Icon

/-! ### Drawings -/

/-- A drawing in the frame that all icons share. -/
def drawing (name shapes : Text) : Text :=
  "<svg xmlns=\"http://www.w3.org/2000/svg\" width=\"24\" height=\"24\" " ++
    "viewBox=\"0 0 24 24\" fill=\"none\" stroke=\"currentColor\" stroke-width=\"2\" " ++
    "stroke-linecap=\"round\" stroke-linejoin=\"round\" class=\"svg-icon lucide-" ++ name ++
    "\">" ++ shapes ++ "</svg>"

def pencil : Text :=
  drawing "pencil"
    ("<path d=\"M17 3a2.85 2.83 0 1 1 4 4L7.5 20.5 2 22l1.5-5.5Z\"></path>" ++
    "<path d=\"m15 5 4 4\"></path>")

def squareUserRound : Text :=
  drawing "square-user-round"
    ("<path d=\"M18 21a6 6 0 0 0-12 0\"></path>" ++
    "<circle cx=\"12\" cy=\"11\" r=\"4\"></circle>" ++
    "<rect width=\"18\" height=\"18\" x=\"3\" y=\"3\" rx=\"2\"></rect>")

def flame : Text :=
  drawing "flame"
    ("<path d=\"M8.5 14.5A2.5 2.5 0 0 0 11 12c0-1.38-.5-2-1-3-1.072-2.143-.224-4.054 2-6 " ++
    ".5 2.5 2 4.9 4 6.5 2 1.6 3 3.5 3 5.5a7 7 0 1 1-14 0c0-1.153.433-2.294 1-3a2.5 2.5 0 " ++
    "0 0 2.5 2.5z\"></path>")

def alertTriangle : Text :=
  drawing "alert-triangle"
    ("<path d=\"m21.73 18-8-14a2 2 0 0 0-3.48 0l-8 14A2 2 0 0 0 4 21h16a2 2 0 0 0 " ++
    "1.73-3Z\"></path>" ++
    "<path d=\"M12 9v4\"></path>" ++
    "<path d=\"M12 17h.01\"></path>")

def zap : Text :=
  drawing "zap"
    "<polygon points=\"13 2 3 14 12 14 11 22 21 10 12 10 13 2\"></polygon>"

def list : Text :=
  drawing "list"
    ("<line x1=\"8\" x2=\"21\" y1=\"6\" y2=\"6\"></line>" ++
    "<line x1=\"8\" x2=\"21\" y1=\"12\" y2=\"12\"></line>" ++
    "<line x1=\"8\" x2=\"21\" y1=\"18\" y2=\"18\"></line>" ++
    "<line x1=\"3\" x2=\"3.01\" y1=\"6\" y2=\"6\"></line>" ++
    "<line x1=\"3\" x2=\"3.01\" y1=\"12\" y2=\"12\"></line>" ++
    "<line x1=\"3\" x2=\"3.01\" y1=\"18\" y2=\"18\"></line>")

def quote : Text :=
  drawing "quote"
    ("<path d=\"M3 21c3 0 7-1 7-8V5c0-1.25-.756-2.017-2-2H4c-1.25 0-2 .75-2 1.972V11c0 " ++
    "1.25.75 2 2 2 1 0 1 0 1 1v1c0 1-1 2-2 2s-1 .008-1 1.031V21c0 1 0 1 1 1z\"></path>" ++
    "<path d=\"M15 21c3 0 7-1 7-8V5c0-1.25-.757-2.017-2-2h-4c-1.25 0-2 .75-2 1.972V11c0 " ++
    "1.25.75 2 2 2h.75c0 2.25.25 4-2.75 4v3c0 1 0 1 1 1z\"></path>")

def stickyNote : Text :=
  drawing "sticky-note"
    ("<path d=\"M16 3H5a2 2 0 0 0-2 2v14a2 2 0 0 0 2 2h14a2 2 0 0 0 2-2V8Z\"></path>" ++
    "<path d=\"M15 3v4a2 2 0 0 0 2 2h4\"></path>")

def clipboardList : Text :=
  drawing "clipboard-list"
    ("<rect width=\"8\" height=\"4\" x=\"8\" y=\"2\" rx=\"1\" ry=\"1\"></rect>" ++
    "<path d=\"M16 4h2a2 2 0 0 1 2 2v14a2 2 0 0 1-2 2H6a2 2 0 0 1-2-2V6a2 2 0 0 1 " ++
    "2-2h2\"></path>" ++
    "<path d=\"M12 11h4\"></path>" ++
    "<path d=\"M12 16h4\"></path>" ++
    "<path d=\"M8 11h.01\"></path>" ++
    "<path d=\"M8 16h.01\"></path>")

def copyCheck : Text :=
  drawing "copy-check"
    ("<path d=\"m12 15 2 2 4-4\"></path>" ++
    "<rect width=\"14\" height=\"14\" x=\"8\" y=\"8\" rx=\"2\" ry=\"2\"></rect>" ++
    "<path d=\"M4 16c-1.1 0-2-.9-2-2V4c0-1.1.9-2 2-2h10c1.1 0 2 .9 2 2\"></path>")

def usersRound : Text :=
  drawing "users-round"
    ("<path d=\"M18 21a8 8 0 0 0-16 0\"></path>" ++
    "<circle cx=\"10\" cy=\"8\" r=\"5\"></circle>" ++
    "<path d=\"M22 20c0-3.37-2-6.5-4-8a5 5 0 0 0-.45-8.3\"></path>")

def circleAlert : Text :=
  drawing "circle-alert"
    ("<circle cx=\"12\" cy=\"12\" r=\"10\"></circle>" ++
    "<line x1=\"12\" x2=\"12\" y1=\"8\" y2=\"12\"></line>" ++
    "<line x1=\"12\" x2=\"12.01\" y1=\"16\" y2=\"16\"></line>")

def squareStack : Text :=
  drawing "square-stack"
    ("<path d=\"M4 10c-1.1 0-2-.9-2-2V4c0-1.1.9-2 2-2h4c1.1 0 2 .9 2 2\"></path>" ++
    "<path d=\"M10 16c-1.1 0-2-.9-2-2v-4c0-1.1.9-2 2-2h4c1.1 0 2 .9 2 2\"></path>" ++
    "<rect width=\"8\" height=\"8\" x=\"14\" y=\"14\" rx=\"2\"></rect>")

def bookOpenCheck : Text :=
  drawing "book-open-check"
    ("<path d=\"M8 3H2v15h7c1.7 0 3 1.3 3 3V7c0-2.2-1.8-4-4-4Z\"></path>" ++
    "<path d=\"m16 12 2 2 4-4\"></path>" ++
    "<path d=\"M22 6V3h-6c-2.2 0-4 1.8-4 4v14c0-1.7 1.3-3 3-3h7v-2.3\"></path>")

def filePlus : Text :=
  drawing "file-plus"
    ("<path d=\"M15 2H6a2 2 0 0 0-2 2v16a2 2 0 0 0 2 2h12a2 2 0 0 0 2-2V7Z\"></path>" ++
    "<path d=\"M14 2v4a2 2 0 0 0 2 2h4\"></path>" ++
    "<path d=\"M9 15h6\"></path>" ++
    "<path d=\"M12 18v-6\"></path>")

def info : Text :=
  drawing "info"
    ("<circle cx=\"12\" cy=\"12\" r=\"10\"></circle>" ++
    "<path d=\"M12 16v-4\"></path>" ++
    "<path d=\"M12 8h.01\"></path>")

def chevronDown : Text :=
  drawing "chevron-down"
    "<path d=\"m6 9 6 6 6-6\"></path>"

end Icon

/-! ### The table -/

structure IconTable where
  /-- The icon of each kind of callout, by its name in small letters. -/
  callouts : List (Text × Text)
  otherwise : Text := Icon.info
  fold : Text := Icon.chevronDown
  trackCreate : Text := Icon.squareStack
  trackAdvance : Text := Icon.copyCheck
  entityCreate : Text := Icon.filePlus

namespace IconTable

/-- The names of a table of callouts in small letters; of two alike the last one holds. -/
def callouts.ofList (entries : List (Text × Text)) : List (Text × Text) :=
  (entries.map fun entry => (Text.lower entry.1, entry.2)).reverse

/-- The icon of a kind of callout, in any case. -/
def callout (icons : IconTable) (kind : Text) : Text :=
  (icons.callouts.lookup (Text.lower kind)).getD icons.otherwise

open Icon in
def standard : IconTable where
  callouts := callouts.ofList [
    ("note", pencil),
    ("info", squareUserRound),
    ("tip", flame),
    ("warning", alertTriangle),
    ("danger", zap),
    ("example", list),
    ("quote", quote),
    ("assets", stickyNote),
    ("gear", clipboardList),
    ("in-progress", copyCheck),
    ("bonds", usersRound),
    ("impacts", circleAlert),
    ("legacies", squareStack),
    ("complete", bookOpenCheck)]

end IconTable

end CampaignPress
