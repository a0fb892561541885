import OpGraph.Markup.Remark

/-!
# Faults of markup

What can be wrong with the markup of a graph description. `MarkupFault.message` is the text
shown for a fault; most have none.
-/
namespace OpGraph

open Markup (Remarks)

inductive MarkupFault where
  -- refused forms
  | flowCollection
  | anchor
  | tag
  | duplicateKeys
  | duplicateMerge
  | inconsistentIndentation
  -- characters and numbers
  | unprintable
  | codeOutOfRange
  | codeTooLarge
  | versionTooLong
  | unknownVersion
  -- remarks
  | remarkedTwice
  | remarksOverlap (given present : Remarks)
  | remarksRepeated
  -- contents
  | collectionInKey
  | sequenceKey
  | bareSymbol
  | malformed
  /-- What is read does not have the form that is expected. -/
  | misfit
  /-- Something else that goes wrong with the reading itself. -/
  | interrupted (message : Option String)

namespace MarkupFault

def message : MarkupFault → Option String
  | remarkedTwice => some ""
  | remarksOverlap given present =>
    some ("overlap in comment " ++ given.listing ++ " " ++ present.listing)
  | sequenceKey => some "<class 'tuple'>"
  | interrupted message => message
  | _ => none

end MarkupFault

end OpGraph
