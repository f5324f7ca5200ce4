import ChatNotify.Text.Blank
import ChatNotify.Text.Punctuation
import ChatNotify.Markup.Line

namespace ChatNotify.Markup.Html

/-- The place in a tag that the next character stands at. -/
inductive Place where
  | openName
  | gap
  | attributeName
  | afterAttributeName
  | beforeValue
  | bareValue
  | quotedValue (quote : Char)
  | afterQuotedValue
  | slash
  | closeName
  | closeGap

/-- Holds of the characters of a tag's name. -/
def isTagNameChar (c : Char) : Bool :=
  c.isAlphanum || c = '-'

/-- Holds of the characters that begin an attribute's name. -/
def isAttributeStart (c : Char) : Bool :=
  c.isAlpha || c = '_' || c = ':'

/-- Holds of the characters of an attribute's name. -/
def isAttributeChar (c : Char) : Bool :=
  isAttributeStart c || c.isDigit || c = '.' || c = '-'

/-- Holds of the characters of a value without quotes. -/
def isBareChar (c : Char) : Bool :=
  !c.isAsciiSpace && c ∉ ['"', '\'', '=', '<', '>', '\x60', '\x00']

/-- The place behind the character `c`, or `none` if `c` may not stand here; the bracket that closes
the tag is not asked for. -/
def Place.next (place : Place) (c : Char) : Option Place :=
  match place with
  | .openName =>
    if isTagNameChar c then some .openName
    else if c.isAsciiSpace then some .gap
    else if c = '/' then some .slash else none
  | .gap =>
    if c.isAsciiSpace then some .gap
    else if isAttributeStart c then some .attributeName
    else if c = '/' then some .slash else none
  | .attributeName =>
    if isAttributeChar c then some .attributeName
    else if c.isAsciiSpace then some .afterAttributeName
    else if c = '=' then some .beforeValue
    else if c = '/' then some .slash else none
  | .afterAttributeName =>
    if c.isAsciiSpace then some .afterAttributeName
    else if c = '=' then some .beforeValue
    else if isAttributeStart c then some .attributeName
    else if c = '/' then some .slash else none
  | .beforeValue =>
    if c.isAsciiSpace then some .beforeValue
    else if c = '"' || c = '\'' then some (.quotedValue c)
    else if isBareChar c then some .bareValue else none
  | .bareValue =>
    if isBareChar c then some .bareValue
    else if c.isAsciiSpace then some .gap else none
  | .quotedValue quote =>
    if c = quote then some .afterQuotedValue
    else if c = '\x00' then none else some (.quotedValue quote)
  | .afterQuotedValue =>
    if c.isAsciiSpace then some .gap
    else if c = '/' then some .slash else none
  | .slash => none
  | .closeName =>
    if isTagNameChar c then some .closeName
    else if c.isAsciiSpace then some .closeGap else none
  | .closeGap => if c.isAsciiSpace then some .closeGap else none

/-- Holds where a closing bracket ends the tag. -/
def Place.mayEnd : Place → Bool
  | .beforeValue | .quotedValue _ => false
  | _ => true

/-- What follows the tag in which the text stands at the place. -/
def Place.scan (place : Place) : List Char → Option (List Char)
  | [] => none
  | c :: rest =>
    if c = '>' && place.mayEnd then some rest
    else (place.next c).bind fun next => next.scan rest

/-- What follows an opening or closing tag. -/
def scanTag : List Char → Option (List Char)
  | '/' :: c :: rest => if c.isAlpha then Place.closeName.scan rest else none
  | c :: rest => if c.isAlpha then Place.openName.scan rest else none
  | [] => none

/-- What follows the first occurrence of the mark. -/
def scanThrough (mark : List Char) : List Char → Option (List Char)
  | [] => none
  | c :: rest =>
    if mark.isPrefixOf (c :: rest) then some ((c :: rest).drop mark.length)
    else scanThrough mark rest

/-- What follows two marks and a closing bracket. Marks are read from the left, so that a third mark
in front of the bracket hides it. -/
def scanDoubled (mark : Char) : List Char → Option (List Char)
  | a :: b :: c :: rest =>
    if a ≠ mark then scanDoubled mark (b :: c :: rest)
    else if b ≠ mark then scanDoubled mark (c :: rest)
    else if c = '>' then some rest
    else scanDoubled mark rest
  | _ => none

/-- What follows a question mark and a closing bracket, read like the marks of `scanDoubled`. -/
def scanInstruction : List Char → Option (List Char)
  | a :: b :: rest =>
    if a ≠ '?' then scanInstruction (b :: rest)
    else if b = '>' then some rest
    else scanInstruction rest
  | _ => none

/-- The constructs that last until an end mark of their own. -/
inductive Enclosure where
  | comment
  | instruction
  | characterData
  deriving Repr, DecidableEq

/-- The enclosure that the text behind an angle bracket opens. -/
def Enclosure.opening? (text : List Char) : Option Enclosure :=
  if "!--".toList.isPrefixOf text then some .comment
  else if text.head? = some '?' then some .instruction
  else if "![CDATA[".toList.isPrefixOf text then some .characterData
  else none

/-- What follows a tag, a comment, a processing instruction, a declaration or a character data
section. -/
def scanInline (text : List Char) : Option (List Char) :=
  match text with
  | '!' :: '-' :: '-' :: '>' :: rest => some rest
  | '!' :: '-' :: '-' :: '-' :: '>' :: rest => some rest
  | '!' :: '-' :: '-' :: rest => scanDoubled '-' rest
  | '!' :: '[' :: rest =>
    if "CDATA[".toList.isPrefixOf rest then scanDoubled ']' (rest.drop 6) else none
  | '!' :: c :: rest => if c.isAlpha then scanThrough ['>'] rest else none
  | '?' :: rest => scanInstruction rest
  | _ => scanTag text

/-- The kinds of HTML blocks, by what opens them. -/
inductive Block where
  | rawText
  | comment
  | instruction
  | declaration
  | characterData
  | blockTag
  | otherTag
  deriving Repr, DecidableEq

/-- The tags whose content is no markup. -/
def rawTextTags : List String := ["script", "pre", "textarea", "style"]

/-- The tags that open a block wherever they stand at the start of a line. -/
def blockTags : List String := [
  "address", "article", "aside", "base", "basefont", "blockquote", "body", "caption", "center",
  "col", "colgroup", "dd", "details", "dialog", "dir", "div", "dl", "dt", "fieldset", "figcaption",
  "figure", "footer", "form", "frame", "frameset", "h1", "h2", "h3", "h4", "h5", "h6", "head",
  "header", "hr", "html", "iframe", "legend", "li", "link", "main", "menu", "menuitem", "nav",
  "noframes", "ol", "optgroup", "option", "p", "param", "search", "section", "summary", "table",
  "tbody", "td", "tfoot", "th", "thead", "title", "tr", "track", "ul"]

/-- The name of the tag at the head of the text, in lower case, and what follows it. -/
def tagName (text : List Char) : String × List Char :=
  (String.ofList ((text.takeWhile Char.isAlphanum).map Char.toLower), text.dropWhile Char.isAlphanum)

/-- The kind of block that the line opens; other tags than those of blocks must stand alone on it
and may not interrupt a paragraph. -/
def Block.opening? (inParagraph : Bool) : List Char → Option Block
  | '<' :: text =>
    let (name, after) := tagName text
    let (blockName, blockAfter) := tagName (if text.head? = some '/' then text.drop 1 else text)
    if name ∈ rawTextTags && after.head?.all (fun c => c.isAsciiSpace || c = '>') then some .rawText
    else if "!--".toList.isPrefixOf text then some .comment
    else if text.head? = some '?' then some .instruction
    else if text.head? = some '!' && text[1]?.any Char.isAlpha then some .declaration
    else if "![CDATA[".toList.isPrefixOf text then some .characterData
    else if blockName ∈ blockTags && (blockAfter.head?.all (fun c => c.isAsciiSpace || c = '>') ||
        "/>".toList.isPrefixOf blockAfter) then some .blockTag
    else if !inParagraph &&
        (scanTag text).any (·.all fun c => c = ' ' || c = '\t' || c = '\x0c' || isLineEnd c) then
      some .otherTag
    else none
  | _ => none

/-- Holds when the mark stands somewhere in the text. -/
def occurs (mark : String) (text : List Char) : Bool :=
  (scanThrough mark.toList text).isSome

/-- Holds when the block ends with the line; blocks that a tag opens end before a blank line. -/
def Block.endsWith (block : Block) (line : List Char) : Bool :=
  match block with
  | .rawText =>
    let lower := line.map Char.toLower
    rawTextTags.any fun name => occurs ("</" ++ name ++ ">") lower
  | .comment => occurs "-->" line
  | .instruction => occurs "?>" line
  | .declaration => occurs ">" line
  | .characterData => occurs "]]>" line
  | .blockTag | .otherTag => false

/-- Holds when a blank line ends the block. -/
def Block.endsBeforeBlank : Block → Bool
  | .blockTag | .otherTag => true
  | _ => false

end ChatNotify.Markup.Html
