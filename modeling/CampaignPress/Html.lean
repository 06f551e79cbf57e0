/-
This file writes HTML as a sequence of tags and text. Text and attribute values
are escaped where they are written; markup that the library trusts is a piece
of its own kind.
-/
import CampaignPress.Numeral

namespace CampaignPress

namespace Html

/-! ### Escaping -/

def escapeChar : Char → Text
  | '&' => "&amp;"
  | '<' => "&lt;"
  | '>' => "&gt;"
  | '"' => "&quot;"
  | c => [c]

/-- Text as it stands in content and between double quotes. -/
def escape (text : Text) : Text := text.flatMap escapeChar

/-! ### Tags -/

inductive Attribute where
  /-- The value is escaped. -/
  | escaped (name value : Text)
  /-- The value stands as it is. -/
  | verbatim (name value : Text)
  /-- A name without a value. -/
  | flag (name : Text)

inductive Piece where
  | opening (name : Text) (attributes : List Attribute)
  | closing (name : Text)
  /-- Text is escaped. -/
  | text (content : Text)
  /-- Trusted markup stands as it is. -/
  | verbatim (content : Text)

def Attribute.write : Attribute → Text
  | .escaped name value => ' ' :: name ++ "=\"" ++ escape value ++ "\""
  | .verbatim name value => ' ' :: name ++ "=\"" ++ value ++ "\""
  | .flag name => ' ' :: name

def Piece.write : Piece → Text
  | .opening name attributes => '<' :: name ++ attributes.flatMap Attribute.write ++ ">"
  | .closing name => "</" ++ name ++ ">"
  | .text content => escape content
  | .verbatim content => content

end Html

/-- A fragment of HTML is the sequence of its tags and texts. -/
abbrev Html := List Html.Piece

namespace Html

def write (html : Html) : Text := html.flatMap Piece.write

/-! ### Building -/

def element (name : Text) (attributes : List Attribute) (content : Html) : Html :=
  .opening name attributes :: content ++ [.closing name]

def classed (name classes : Text) (content : Html) : Html :=
  element name [.verbatim "class" classes] content

def plainText (content : Text) : Html := [.text content]

/-- The numeral of a number; one with too many digits is a fault. -/
def number (value : Int) : Except Fault Html := do
  return [.text (← Numeral.write value)]

end Html

end CampaignPress
