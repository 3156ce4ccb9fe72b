/-
Schemas: how a dialect is written down.

A schema says how a dialect nests its blocks, which lines are comments, how a statement
goes on over several lines, and whether letter case counts.  Each field has a default,
so a file need only say what is different.  `check` finds what makes a schema unusable;
it is asked for schemas from files, while reading itself copes with any schema.
-/
import DeviceLint.Tree

namespace DeviceLint

/-- How a dialect nests statements. -/
inductive BlockStyle where
  /-- By deeper indentation. -/
  | indent
  /-- Between braces. -/
  | brace
  /-- Between words that open and close. -/
  | keyword
  /-- Not at all. -/
  | flat
  deriving DecidableEq, Repr

namespace BlockStyle

def name : BlockStyle → String
  | .indent => "indent"
  | .brace => "brace"
  | .keyword => "keyword"
  | .flat => "flat"

def decode : Decoder BlockStyle :=
  Decode.oneOf
    [("indent", .indent), ("brace", .brace), ("keyword", .keyword), ("flat", .flat)]

end BlockStyle

/-- A pair of texts, one of which opens what the other closes. -/
structure Delimiters where
  opener : String
  closer : String
  deriving DecidableEq, Repr

namespace Delimiters

def encode (d : Delimiters) : Value :=
  .record [("open", .text d.opener), ("close", .text d.closer)]

def decode (title : String) : Decoder Delimiters :=
  Decode.record ⟨title, ["open", "close"], ["open", "close"], false⟩
    (fun name d x =>
      if name == "open" then return { x with opener := ← Decode.string d }
      else return { x with closer := ← Decode.string d })
    ⟨"", ""⟩

end Delimiters

structure Schema where
  id : String := ""
  /-- The namespace of helpers that related dialects share. -/
  family : String := ""
  description : String := ""
  aliases : List String := []
  blockStyle : BlockStyle := .indent
  /-- What a comment line begins with. -/
  commentMarks : List String := ["!", "#"]
  blockComment : Option Delimiters := none
  /-- What a line ends with if its statement goes on in the next line. -/
  continuation : Option String := none
  /-- Statements that end a section and are no nodes; for indentation only. -/
  terminators : List String := []
  /-- Words that open and close sections; for keywords only. -/
  keywordBlocks : List Delimiters := []
  /-- Commands whose text runs on to a delimiter of their own. -/
  delimitedCommands : List String := []
  /-- Columns from one tab stop to the next. -/
  tabWidth : Nat := 8
  caseSensitive : Bool := false
  deriving DecidableEq, Repr

/-- Why a schema cannot be used; the first text is its id. -/
inductive SchemaFault where
  | emptyId
  | noKeywordBlocks (id : String)
  | emptyCommentDelimiter (id : String)
  | zeroTabWidth (id : String)
  deriving DecidableEq, Repr

namespace SchemaFault

def message : SchemaFault → String
  | .emptyId => "schema id must not be empty"
  | .noKeywordBlocks id => s!"schema '{id}' uses keyword blocks but declares none"
  | .emptyCommentDelimiter id => s!"schema '{id}' has an empty block comment delimiter"
  | .zeroTabWidth id => s!"schema '{id}' has tab_width 0"

end SchemaFault

namespace Schema

/-- Whether a text is the id of a schema or one of its other names. -/
def answersTo (s : Schema) (name : String) : Bool :=
  sameWord s.id name || s.aliases.any (sameWord · name)

/-- Whether a line, without the blanks around it, is a comment. -/
def isComment (s : Schema) (trimmed : List Char) : Bool :=
  s.commentMarks.any fun mark => !mark.isEmpty && mark.toList.isPrefixOf trimmed

def isTerminator (s : Schema) (statement : List Char) : Bool :=
  s.terminators.any fun t => Text.eqIgnoreAsciiCase statement t.toList

/-- Whether two texts are the same to a dialect. -/
def sameText (s : Schema) (a b : String) : Bool :=
  if s.caseSensitive then a == b else sameWord a b

/-- The first fault of a schema. -/
def fault? (s : Schema) : Option SchemaFault :=
  if (Text.trim s.id.toList).isEmpty then some .emptyId
  else if s.blockStyle == .keyword && s.keywordBlocks.isEmpty then some (.noKeywordBlocks s.id)
  else if s.blockComment.any fun d => d.opener.isEmpty || d.closer.isEmpty then
    some (.emptyCommentDelimiter s.id)
  else if s.tabWidth == 0 then some (.zeroTabWidth s.id)
  else none

/-! ### As data -/

def encode (s : Schema) : Value :=
  .record [
    ("id", .text s.id), ("family", .text s.family), ("description", .text s.description),
    ("aliases", .texts s.aliases), ("block_style", .text s.blockStyle.name),
    ("comment_prefixes", .texts s.commentMarks),
    ("block_comment", (s.blockComment.map Delimiters.encode).getD .null),
    ("continuation_suffix", .ofOption s.continuation), ("terminators", .texts s.terminators),
    ("keyword_blocks", .array (s.keywordBlocks.map Delimiters.encode)),
    ("delimited_commands", .texts s.delimitedCommands), ("tab_width", .nat s.tabWidth),
    ("case_sensitive", .bool s.caseSensitive)]

def shape : Decode.Shape where
  title := "struct VendorSchema"
  fields := ["id", "family", "description", "aliases", "block_style", "comment_prefixes",
    "block_comment", "continuation_suffix", "terminators", "keyword_blocks",
    "delimited_commands", "tab_width", "case_sensitive"]
  required := []
  closed := false

def put : Decode.Put Schema := fun name d s =>
  if name == "id" then return { s with id := ← Decode.string d }
  else if name == "family" then return { s with family := ← Decode.string d }
  else if name == "description" then return { s with description := ← Decode.string d }
  else if name == "aliases" then return { s with aliases := ← Decode.strings d }
  else if name == "block_style" then return { s with blockStyle := ← BlockStyle.decode d }
  else if name == "comment_prefixes" then return { s with commentMarks := ← Decode.strings d }
  else if name == "block_comment" then
    return { s with
      blockComment := ← Decode.optional (Delimiters.decode "struct BlockComment") d }
  else if name == "continuation_suffix" then
    return { s with continuation := ← Decode.optional Decode.string d }
  else if name == "terminators" then return { s with terminators := ← Decode.strings d }
  else if name == "keyword_blocks" then
    return { s with
      keywordBlocks := ← Decode.listOf (Delimiters.decode "struct KeywordBlock") d }
  else if name == "delimited_commands" then
    return { s with delimitedCommands := ← Decode.strings d }
  else if name == "tab_width" then return { s with tabWidth := ← Decode.nat d }
  else return { s with caseSensitive := ← Decode.bool d }

def decode : Decoder Schema := Decode.record shape put {}

end Schema

end DeviceLint
