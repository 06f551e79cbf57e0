/-
This file reads the tags of written HTML back, and shows that those of a fragment
are the ones it was built of: escaped text opens no tag, and an escaped value ends
where its quotes do. The outline of a tag is what is left of it without the values.

The reader takes one character after the other. It is described by what it reads
of a text and where it stands after it, so that facts about the parts of a text
can be put together.
-/
import CampaignPress.Proofs.Html

namespace CampaignPress

namespace Html

/-! ### Entities -/

/-- Entities as the characters that they stand for. -/
def unescape : Text → Text
  | [] => []
  | '&' :: 'a' :: 'm' :: 'p' :: ';' :: rest => '&' :: unescape rest
  | '&' :: 'l' :: 't' :: ';' :: rest => '<' :: unescape rest
  | '&' :: 'g' :: 't' :: ';' :: rest => '>' :: unescape rest
  | '&' :: 'q' :: 'u' :: 'o' :: 't' :: ';' :: rest => '"' :: unescape rest
  | c :: rest => c :: unescape rest

theorem unescape_cons {c : Char} (other : c ≠ '&') (rest : Text) :
    unescape (c :: rest) = c :: unescape rest := by
  rw [unescape.eq_def]
  split <;> simp_all

theorem unescape_escape (text : Text) : unescape (escape text) = text := by
  induction text with
  | nil => rfl
  | cons c rest inductionHypothesis =>
    rw [escape_cons, escapeChar.eq_def]
    split
    · exact congrArg ('&' :: ·) inductionHypothesis
    · exact congrArg ('<' :: ·) inductionHypothesis
    · exact congrArg ('>' :: ·) inductionHypothesis
    · exact congrArg ('"' :: ·) inductionHypothesis
    · rename_i other _ _ _
      rw [List.singleton_append, unescape_cons other, inductionHypothesis]

/-! ### Reading -/

structure Tag where
  /-- The tag as it is written, but for the values and their quotes. -/
  outline : Text
  values : List Text
  deriving DecidableEq, Repr

/-- Where a reader stands. -/
inductive Place where
  | between
  | inTag (tag : Tag)
  | inValue (tag : Tag) (value : Text)
  deriving DecidableEq, Repr

/-- Reads one character, and gives the tag that it ends. -/
def Place.step : Place → Char → Place × Option Tag
  | .between, c => if c = '<' then (.inTag ⟨[], []⟩, none) else (.between, none)
  | .inTag tag, c =>
    if c = '>' then (.between, some tag)
    else if c = '"' then (.inValue tag [], none)
    else (.inTag ⟨tag.outline ++ [c], tag.values⟩, none)
  | .inValue tag value, c =>
    if c = '"' then (.inTag ⟨tag.outline, tag.values ++ [value]⟩, none)
    else (.inValue tag (value ++ [c]), none)

theorem Place.step_opens : Place.between.step '<' = (.inTag ⟨[], []⟩, none) := rfl

theorem Place.step_closes (tag : Tag) : (Place.inTag tag).step '>' = (.between, some tag) := rfl

theorem Place.step_quotes (tag : Tag) : (Place.inTag tag).step '"' = (.inValue tag [], none) := rfl

theorem Place.step_unquotes (tag : Tag) (value : Text) :
    (Place.inValue tag value).step '"' = (.inTag ⟨tag.outline, tag.values ++ [value]⟩, none) := rfl

def Place.run : Place → Text → Place
  | place, [] => place
  | place, c :: rest => (place.step c).1.run rest

def Place.tags : Place → Text → List Tag
  | _, [] => []
  | place, c :: rest => (place.step c).2.toList ++ (place.step c).1.tags rest

/-- The tags of a text. -/
def tags (text : Text) : List Tag := Place.between.tags text

/-- A reader reads tags of a text and stands somewhere after it. -/
structure Place.Reads (place : Place) (text : Text) (tags : List Tag) (next : Place) : Prop where
  run : place.run text = next
  tags : place.tags text = tags

namespace Place.Reads

theorem nil (place : Place) : place.Reads [] [] place := ⟨rfl, rfl⟩

theorem cons {place middle next : Place} {c : Char} {rest : Text} {tag? : Option Tag}
    {tags : List Tag} (step : place.step c = (middle, tag?)) (later : middle.Reads rest tags next) :
    place.Reads (c :: rest) (tag?.toList ++ tags) next where
  run := by rw [Place.run, step, later.run]
  tags := by rw [Place.tags, step, later.tags]

theorem append {place middle next : Place} {left right : Text} {before after : List Tag}
    (first : place.Reads left before middle) (second : middle.Reads right after next) :
    place.Reads (left ++ right) (before ++ after) next := by
  induction left generalizing place before with
  | nil =>
    obtain ⟨rfl, rfl⟩ := first
    exact second
  | cons c left inductionHypothesis =>
    obtain ⟨run, rfl⟩ := first
    have whole := cons rfl (inductionHypothesis ⟨run, rfl⟩)
    rwa [← List.append_assoc] at whole

end Place.Reads

/-! ### Clean texts -/

/-- Whether a text holds no mark of tags and values. -/
def isClean (text : Text) : Bool := text.all fun c => c ≠ '<' && c ≠ '>' && c ≠ '"'

theorem isClean_iff {text : Text} :
    isClean text ↔ ∀ c ∈ text, c ≠ '<' ∧ c ≠ '>' ∧ c ≠ '"' := by
  simp [isClean, and_assoc]

theorem isClean_append {left right : Text} :
    isClean (left ++ right) = (isClean left && isClean right) := List.all_append

/-- Nothing that is escaped stands for a mark. -/
theorem isClean_escape (text : Text) : isClean (escape text) := by
  refine List.all_eq_true.2 fun d member => ?_
  obtain ⟨c, -, here⟩ := List.mem_flatMap.1 member
  have clean : isClean (escapeChar c) := by
    rw [escapeChar.eq_def]
    split
    · decide
    · decide
    · decide
    · decide
    · rename_i noLeft noRight noQuote
      exact isClean_iff.2 (List.forall_mem_singleton.2 ⟨noLeft, noRight, noQuote⟩)
  exact List.all_eq_true.1 clean d here

theorem reads_between {text : Text} (clean : isClean text) :
    Place.between.Reads text [] .between := by
  induction text with
  | nil => exact .nil _
  | cons c rest inductionHypothesis =>
    obtain ⟨noMark, others⟩ := List.forall_mem_cons.1 (isClean_iff.1 clean)
    have step : Place.between.step c = (.between, none) := if_neg noMark.1
    exact .cons step (inductionHypothesis (isClean_iff.2 others))

theorem reads_inTag {text : Text} (clean : isClean text) (tag : Tag) :
    (Place.inTag tag).Reads text [] (.inTag ⟨tag.outline ++ text, tag.values⟩) := by
  induction text generalizing tag with
  | nil =>
    rw [List.append_nil]
    exact .nil _
  | cons c rest inductionHypothesis =>
    obtain ⟨noMark, others⟩ := List.forall_mem_cons.1 (isClean_iff.1 clean)
    have step : (Place.inTag tag).step c = (.inTag ⟨tag.outline ++ [c], tag.values⟩, none) := by
      rw [Place.step, if_neg noMark.2.1, if_neg noMark.2.2]
    have later := inductionHypothesis (isClean_iff.2 others) ⟨tag.outline ++ [c], tag.values⟩
    rw [List.append_assoc] at later
    exact .cons step later

theorem reads_inValue {text : Text} (clean : isClean text) (tag : Tag) (value : Text) :
    (Place.inValue tag value).Reads text [] (.inValue tag (value ++ text)) := by
  induction text generalizing value with
  | nil =>
    rw [List.append_nil]
    exact .nil _
  | cons c rest inductionHypothesis =>
    obtain ⟨noMark, others⟩ := List.forall_mem_cons.1 (isClean_iff.1 clean)
    have step : (Place.inValue tag value).step c = (.inValue tag (value ++ [c]), none) :=
      if_neg noMark.2.2
    have later := inductionHypothesis (isClean_iff.2 others) (value ++ [c])
    rw [List.append_assoc] at later
    exact .cons step later

/-! ### Outlines -/

/-- The outline of an attribute is its name, with the sign before its value. -/
def Attribute.outline : Attribute → Text
  | .escaped name _ => ' ' :: name ++ ['=']
  | .verbatim name _ => ' ' :: name ++ ['=']
  | .flag name => ' ' :: name

def Attribute.values : Attribute → List Text
  | .escaped _ value => [escape value]
  | .verbatim _ value => [value]
  | .flag _ => []

def Attribute.isClean : Attribute → Bool
  | .escaped name _ => Html.isClean name
  | .verbatim name value => Html.isClean name && Html.isClean value
  | .flag name => Html.isClean name

/-- The outlines of the tags of a piece. -/
def Piece.outline : Piece → List Text
  | .opening name attributes => [name ++ attributes.flatMap Attribute.outline]
  | .closing name => ['/' :: name]
  | .text _ => []
  | .verbatim content => (Html.tags content).map Tag.outline

/-- Whether a reader between tags stands there again after trusted markup, with clean values
behind it. -/
def isMarkup (content : Text) : Bool :=
  Place.between.run content = .between && (tags content).all fun tag => tag.values.all isClean

def Piece.isClean : Piece → Bool
  | .opening name attributes => Html.isClean name && attributes.all Attribute.isClean
  | .closing name => Html.isClean name
  | .text _ => true
  | .verbatim content => isMarkup content

/-- The outlines of the tags of a fragment, in order. -/
def outline (html : Html) : List Text := html.flatMap Piece.outline

/-- Whether the names, the trusted values and the trusted markup of a fragment are clean. -/
def isSafe (html : Html) : Bool := html.all Piece.isClean

/-- A text whose tags have the given outlines and clean values, and which ends between tags. -/
structure HasOutline (text : Text) (outline : List Text) : Prop where
  closed : Place.between.run text = .between
  outline : (tags text).map Tag.outline = outline
  values : ∀ tag ∈ tags text, ∀ value ∈ tag.values, isClean value

/-! ### Reading what is written -/

theorem reads_quoted {name value : Text} (cleanName : isClean name) (cleanValue : isClean value)
    (tag : Tag) : (Place.inTag tag).Reads (' ' :: name ++ "=\"" ++ value ++ "\"") []
      (.inTag ⟨tag.outline ++ (' ' :: name ++ ['=']), tag.values ++ [value]⟩) := by
  have named : isClean (' ' :: name ++ ['=']) := by
    rw [isClean_append, Bool.and_eq_true]
    exact ⟨cleanName, rfl⟩
  have inName := reads_inTag named tag
  have inValue := reads_inValue cleanValue ⟨tag.outline ++ (' ' :: name ++ ['=']), tag.values⟩ []
  have whole := inName.append (.cons (Place.step_quotes _)
    (inValue.append (.cons (Place.step_unquotes _ _) (.nil _))))
  have same : ' ' :: name ++ "=\"".toList ++ value ++ "\"".toList =
      ' ' :: name ++ ['='] ++ '"' :: (value ++ ['"']) := by simp
  rw [same]
  exact whole

theorem Attribute.reads {piece : Attribute} (clean : piece.isClean) (tag : Tag) :
    (Place.inTag tag).Reads piece.write []
      (.inTag ⟨tag.outline ++ piece.outline, tag.values ++ piece.values⟩) := by
  cases piece with
  | escaped name value => exact reads_quoted clean (isClean_escape value) tag
  | verbatim name value =>
    obtain ⟨cleanName, cleanValue⟩ := Bool.and_eq_true_iff.1 clean
    exact reads_quoted cleanName cleanValue tag
  | flag name =>
    have named : Html.isClean (' ' :: name) := clean
    have whole := reads_inTag named tag
    rwa [← List.append_nil tag.values] at whole

theorem Attribute.isClean_of_mem_values {piece : Attribute} (clean : piece.isClean) {value : Text}
    (member : value ∈ piece.values) : Html.isClean value := by
  cases piece with
  | escaped name content =>
    rw [List.mem_singleton.1 member]
    exact isClean_escape content
  | verbatim name content =>
    rw [List.mem_singleton.1 member]
    exact (Bool.and_eq_true_iff.1 clean).2
  | flag name => exact absurd member List.not_mem_nil

theorem reads_attributes {attributes : List Attribute} (clean : attributes.all Attribute.isClean)
    (tag : Tag) : (Place.inTag tag).Reads (attributes.flatMap Attribute.write) []
      (.inTag ⟨tag.outline ++ attributes.flatMap Attribute.outline,
        tag.values ++ attributes.flatMap Attribute.values⟩) := by
  induction attributes generalizing tag with
  | nil =>
    rw [List.flatMap_nil, List.flatMap_nil, List.flatMap_nil, List.append_nil, List.append_nil]
    exact .nil _
  | cons piece attributes inductionHypothesis =>
    rw [List.all_cons, Bool.and_eq_true] at clean
    have whole := (Attribute.reads clean.1 tag).append (inductionHypothesis clean.2 _)
    rwa [List.append_assoc, List.append_assoc, ← List.flatMap_cons, ← List.flatMap_cons,
      ← List.flatMap_cons] at whole

theorem hasOutline_nil : HasOutline [] [] := ⟨rfl, rfl, fun _ none' => absurd none' List.not_mem_nil⟩

theorem HasOutline.append {left right : Text} {before after : List Text}
    (first : HasOutline left before) (second : HasOutline right after) :
    HasOutline (left ++ right) (before ++ after) := by
  have whole : Place.between.Reads (left ++ right) (tags left ++ tags right) .between :=
    .append ⟨first.closed, rfl⟩ ⟨second.closed, rfl⟩
  refine ⟨whole.run, ?_, ?_⟩
  · rw [tags, whole.tags, List.map_append, first.outline, second.outline]
  · rw [tags, whole.tags]
    exact List.forall_mem_append.2 ⟨first.values, second.values⟩

/-- A clean piece is read as its tags. -/
theorem Piece.hasOutline {piece : Piece} (clean : piece.isClean) :
    HasOutline piece.write piece.outline := by
  cases piece with
  | opening name attributes =>
    obtain ⟨cleanName, cleanAttributes⟩ := Bool.and_eq_true_iff.1 clean
    have inside := (reads_inTag cleanName ⟨[], []⟩).append (reads_attributes cleanAttributes _)
    have whole : Place.between.Reads
        ('<' :: (name ++ attributes.flatMap Attribute.write ++ ['>']))
        [⟨name ++ attributes.flatMap Attribute.outline, attributes.flatMap Attribute.values⟩]
        .between :=
      .cons Place.step_opens (inside.append (.cons (Place.step_closes _) (.nil _)))
    refine ⟨whole.run, congrArg (List.map Tag.outline) whole.tags, ?_⟩
    rw [show tags (Piece.opening name attributes).write = _ from whole.tags]
    refine List.forall_mem_singleton.2 fun value member => ?_
    obtain ⟨piece, inAttributes, inValues⟩ := List.mem_flatMap.1 member
    exact Attribute.isClean_of_mem_values (List.all_eq_true.1 cleanAttributes piece inAttributes)
      inValues
  | closing name =>
    have named : Html.isClean ('/' :: name) := clean
    have whole : Place.between.Reads ('<' :: ('/' :: name ++ ['>'])) [⟨'/' :: name, []⟩] .between :=
      .cons Place.step_opens ((reads_inTag named _).append (.cons (Place.step_closes _) (.nil _)))
    refine ⟨whole.run, congrArg (List.map Tag.outline) whole.tags, ?_⟩
    rw [show tags (Piece.closing name).write = _ from whole.tags]
    exact List.forall_mem_singleton.2 fun value member => absurd member List.not_mem_nil
  | text content =>
    have whole := reads_between (isClean_escape content)
    refine ⟨whole.run, congrArg (List.map Tag.outline) whole.tags, ?_⟩
    rw [show tags (Piece.text content).write = [] from whole.tags]
    exact fun _ none' => absurd none' List.not_mem_nil
  | verbatim content =>
    obtain ⟨closed, values⟩ := Bool.and_eq_true_iff.1 clean
    refine ⟨of_decide_eq_true closed, rfl, fun tag inTags value inValues => ?_⟩
    exact List.all_eq_true.1 (List.all_eq_true.1 values tag inTags) value inValues

/-- A safe fragment is read as its tags. -/
theorem hasOutline_write {html : Html} (safe : html.isSafe) : HasOutline html.write html.outline := by
  induction html with
  | nil => exact hasOutline_nil
  | cons piece html inductionHypothesis =>
    rw [isSafe, List.all_cons, Bool.and_eq_true] at safe
    rw [write, outline, List.flatMap_cons, List.flatMap_cons]
    exact (Piece.hasOutline safe.1).append (inductionHypothesis safe.2)

/-! ### Building -/

/-- The outlines of an element around others. -/
def around (name attributes : Text) (inner : List Text) : List Text :=
  (name ++ attributes) :: inner ++ ['/' :: name]

/-- A safe fragment with the given outlines. -/
structure Shows (html : Html) (outline : List Text) : Prop where
  safe : html.isSafe
  outline : html.outline = outline

/-- What is shown is read with the same outlines. -/
theorem Shows.hasOutline {html : Html} {outline : List Text} (shows : html.Shows outline) :
    HasOutline html.write outline :=
  shows.outline ▸ hasOutline_write shows.safe

theorem shows_nil : Shows [] [] := ⟨rfl, rfl⟩

theorem shows_text (content : Text) : Shows [.text content] [] := ⟨rfl, rfl⟩

theorem shows_plainText (content : Text) : (plainText content).Shows [] := shows_text content

section Building

variable {left right : Html} {before after : List Text}

theorem Shows.append (first : left.Shows before) (second : right.Shows after) :
    (left ++ right).Shows (before ++ after) := by
  constructor
  · rw [isSafe, List.all_append, Bool.and_eq_true]
    exact ⟨first.safe, second.safe⟩
  · rw [Html.outline, List.flatMap_append]
    exact congrArg₂ _ first.outline second.outline

/-- A fragment without tags may follow. -/
theorem Shows.append_nil (first : left.Shows before) (second : right.Shows []) :
    (left ++ right).Shows before := by
  have whole := first.append second
  rwa [List.append_nil] at whole

variable {name : Text} (named : isClean name)
include named

theorem shows_opening {attributes : List Attribute} (clean : attributes.all Attribute.isClean) :
    Shows [.opening name attributes] [name ++ attributes.flatMap Attribute.outline] := by
  refine ⟨?_, rfl⟩
  rw [isSafe, List.all_cons, Piece.isClean, named, clean]
  rfl

theorem shows_closing : Shows [.closing name] ['/' :: name] := by
  refine ⟨?_, rfl⟩
  rw [isSafe, List.all_cons, Piece.isClean, named]
  rfl

theorem Shows.element (shows : left.Shows before) {attributes : List Attribute}
    (clean : attributes.all Attribute.isClean) : (element name attributes left).Shows
      (around name (attributes.flatMap Attribute.outline) before) :=
  ((shows_opening named clean).append shows).append (shows_closing named)

theorem Shows.classed (shows : left.Shows before) {classes : Text} (clean : isClean classes) :
    (classed name classes left).Shows (around name " class=" before) := by
  refine shows.element named ?_
  rw [List.all_cons, Attribute.isClean, clean]
  rfl

end Building

/-! ### Trusted markup -/

theorem tags_of_isClean {text : Text} (clean : isClean text) : isMarkup text ∧ tags text = [] := by
  have whole := reads_between clean
  have none' : tags text = [] := whole.tags
  refine ⟨?_, none'⟩
  rw [isMarkup, none', whole.run]
  rfl

/-- Clean text may stand as it is. -/
theorem shows_verbatim {content : Text} (clean : isClean content) : Shows [.verbatim content] [] := by
  obtain ⟨markup, none'⟩ := tags_of_isClean clean
  constructor
  · rw [isSafe, List.all_cons, Piece.isClean, markup]
    rfl
  · rw [outline, List.flatMap_singleton, Piece.outline, none']
    rfl

end Html

end CampaignPress
