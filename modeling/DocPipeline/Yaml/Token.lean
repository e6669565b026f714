/-!
# YAML tokens

What a document is made of once blanks and indentation are accounted for.
Block collections have tokens of their own for their start and end, which
nothing but the indentation shows.
-/

namespace DocPipeline.Yaml

/--
A tag as written: the name of a shorthand, and what follows it.  A tag is made of
octets, since what is escaped in it need not be a text.
-/
structure TagText where
  handle : String
  suffix : List UInt8
  deriving DecidableEq, Repr

inductive Token where
  | version (major minor : Nat)
  | shorthand (handle : String) (lead : List UInt8)
  | documentStart
  | documentEnd
  | blockSequence
  | blockMapping
  | blockEnd
  | flowSequence
  | flowSequenceEnd
  | flowMapping
  | flowMappingEnd
  /-- A dash before an item. -/
  | item
  | comma
  | key
  | value
  | alias (name : String)
  | anchor (name : String)
  | tag (text : TagText)
  | scalar (plain : Bool) (text : String)
  deriving DecidableEq, Repr

end DocPipeline.Yaml
