import PartQuery.Text.Joining

/-!
# Clusters

A reader sees one character where a text may hold several: a letter with its accents, a Hangul
syllable, a flag, a family. Such a cluster is what the default rules of Unicode call an extended
grapheme cluster.
-/

namespace PartQuery.Text

namespace Joining

/-- Whether a consonant is tied to the one before it: nothing but marks stand between them, and a
linker is among the marks. The classes come nearest first; `linked` tells of a linker met so far. -/
def tiesConsonant (linked : Bool) : List Joining → Bool
  | .linker :: rest => tiesConsonant true rest
  | .extending :: rest => tiesConsonant linked rest
  | .joiner :: rest => tiesConsonant linked rest
  | .consonant :: _ => linked
  | _ => false

/-- Whether a joiner after these classes, nearest first, ties two pictographs: it follows a
pictograph, or marks that follow one. -/
def tiesPictograph : List Joining → Bool
  | .extending :: rest => tiesPictograph rest
  | .linker :: rest => tiesPictograph rest
  | .nonJoiner :: rest => tiesPictograph rest
  | .pictograph :: _ => true
  | _ => false

/-- Whether a regional letter after these classes, nearest first, completes a pair. -/
def completesPair : List Joining → Bool
  | .regional :: rest => !completesPair rest
  | _ => false

/-- Whether a character goes on with the cluster before it, whose classes come nearest first. -/
def joins : List Joining → Joining → Bool
  | [], _ => true
  | .carriageReturn :: _, next => next == .lineFeed
  | .lineFeed :: _, _ => false
  | .separate :: _, _ => false
  | last :: before, next =>
    match next with
    | .carriageReturn | .lineFeed | .separate => false
    | .extending | .linker | .nonJoiner | .joiner | .spacingMark => true
    | .leading => last == .prepended || last == .leading
    | .vowel => last == .prepended || last == .leading || last == .vowel || last == .openSyllable
    | .trailing =>
      last == .prepended || last == .vowel || last == .trailing || last == .openSyllable ||
        last == .closedSyllable
    | .openSyllable | .closedSyllable => last == .prepended || last == .leading
    | .consonant => last == .prepended || tiesConsonant false (last :: before)
    | .pictograph => last == .prepended || last == .joiner && tiesPictograph before
    | .regional => last == .prepended || completesPair (last :: before)
    | .plain | .prepended => last == .prepended

end Joining

/-- The cluster that is being read and those after it. The characters of the cluster, and their
classes, come nearest first. -/
def clustersFrom (cluster : List Char) (classes : List Joining) : List Char → List (List Char)
  | [] => [cluster.reverse]
  | c :: rest =>
    if Joining.joins classes (.of c) then clustersFrom (c :: cluster) (.of c :: classes) rest
    else cluster.reverse :: clustersFrom [c] [.of c] rest

/-- The clusters of a text. -/
def clusters : List Char → List (List Char)
  | [] => []
  | c :: rest => clustersFrom [c] [.of c] rest

end PartQuery.Text
