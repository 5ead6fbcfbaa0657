import JoinEngine.Text.ClusterTable
import JoinEngine.Text.Ligature

/-!
Clusters: characters that are read as one and stay together where a word is cut. Marks stay with
the character before them, and the letters of a Hangul syllable, the two letters of a flag, joined
pictures and bound consonants stay with each other. Each character either goes on with a cluster
or starts the next one, which its role and the end of the cluster decide.
-/

namespace JoinEngine.Text

/-- What a character is to the cluster before it. -/
inductive ClusterRole where
  /-- Stands alone. -/
  | control
  /-- Belongs to the character behind it. -/
  | leading
  | mark
  /-- A mark that binds the consonants around it. -/
  | linker
  /-- A mark that keeps them from being bound. -/
  | unlinker
  | joiner
  /-- A mark with a column of its own. -/
  | spacingMark
  /-- Letters of a Hangul syllable. -/
  | initial
  | vowel
  | final
  /-- Hangul syllables written as one character, without a final letter and with one. -/
  | openSyllable
  | closedSyllable
  | flagLetter
  | pictograph
  | consonant
  | other
  deriving DecidableEq

namespace ClusterRole

def isInitial (c : Char) : Bool := inRanges #[(0x1100, 0x115f), (0xa960, 0xa97c)] c

def isVowel (c : Char) : Bool :=
  inRanges #[(0x1160, 0x11a7), (0xd7b0, 0xd7c6), (0x16d63, 0x16d63), (0x16d67, 0x16d6a)] c

def isFinal (c : Char) : Bool := inRanges #[(0x11a8, 0x11ff), (0xd7cb, 0xd7fb)] c

def isSyllable (c : Char) : Bool := 0xac00 ≤ c.toNat && c.toNat ≤ 0xd7a3

/-- Syllables come in rows of 28 that differ in the final letter only, and the first of a row has
none. -/
def isOpenSyllable (c : Char) : Bool := isSyllable c && (c.toNat - 0xac00) % 28 = 0

/-- Characters drawn with the one before them, unless they are of another role: those without a
column, some aside, and a few with one. -/
def isMark (c : Char) : Bool :=
  (charWidth c = 0 && !inRanges unattachedRanges c)
    || inRanges #[(0x2d7f, 0x2d7f), (0xff9e, 0xff9f)] c
    || isSkinTone c

def ofChar (c : Char) : ClusterRole :=
  if inRanges controlRanges c then control
  else if inRanges leadingRanges c then leading
  else if c = Text.joiner then joiner
  else if c.toNat = 0x200c then unlinker
  else if inRanges linkerRanges c then linker
  else if inRanges spacingRanges c then spacingMark
  else if isInitial c then initial
  else if isVowel c then vowel
  else if isFinal c then final
  else if isOpenSyllable c then openSyllable
  else if isSyllable c then closedSyllable
  else if isFlagLetter c then flagLetter
  else if isMark c then mark
  else if inRanges pictographRanges c then pictograph
  else if inRanges consonantRanges c then consonant
  else other

end ClusterRole

/-- How a cluster ends, as far as the next character may go on with it. -/
inductive ClusterEnd where
  /-- In a character that stands alone. -/
  | closed
  /-- In one that belongs to the next. -/
  | leading
  /-- In the letters before a Hangul vowel, in the vowel, in what closes the syllable. -/
  | initial
  | vowel
  | final
  /-- In the first letter of a flag. -/
  | halfFlag
  /-- In a pictograph with marks, and with a joiner behind them. -/
  | pictograph
  | joinedPictograph
  /-- In a consonant with marks, and with a linker among them. -/
  | consonant
  | boundConsonant
  | other
  deriving DecidableEq

namespace ClusterEnd

def ofRole : ClusterRole → ClusterEnd
  | .control => closed
  | .leading => leading
  | .initial => initial
  | .vowel | .openSyllable => vowel
  | .final | .closedSyllable => final
  | .flagLetter => halfFlag
  | .pictograph => pictograph
  | .consonant => consonant
  | .mark | .linker | .unlinker | .joiner | .spacingMark | .other => other

/-- The end of a cluster behind a further mark. Only pictographs and consonants are sought
through marks, a joiner being one for consonants but not for pictographs. -/
def mark (ending : ClusterEnd) (role : ClusterRole) : ClusterEnd :=
  match ending, role with
  | pictograph, .mark | pictograph, .linker | pictograph, .unlinker => pictograph
  | pictograph, .joiner => joinedPictograph
  | consonant, .mark | consonant, .joiner => consonant
  | consonant, .linker => boundConsonant
  | boundConsonant, .mark | boundConsonant, .joiner | boundConsonant, .linker => boundConsonant
  | _, _ => other

/-- The end of a cluster that goes on with a character, or nothing if that starts another. -/
def next? (ending : ClusterEnd) (role : ClusterRole) : Option ClusterEnd :=
  match ending, role with
  | closed, _ | _, .control => none
  | _, .mark | _, .linker | _, .unlinker | _, .joiner | _, .spacingMark =>
    some (ending.mark role)
  | leading, _ | initial, .initial | initial, .vowel | initial, .openSyllable
  | initial, .closedSyllable | vowel, .vowel | vowel, .final | final, .final
  | joinedPictograph, .pictograph | boundConsonant, .consonant => some (ofRole role)
  | halfFlag, .flagLetter => some other
  | _, _ => none

end ClusterEnd

/-- Clusters read so far, the last one still open. Its characters and the closed
clusters are held last first. -/
structure Clustering where
  closed : List (List Char) := []
  current : List Char := []
  ending : ClusterEnd := .closed

namespace Clustering

def all (clustering : Clustering) : List (List Char) :=
  if clustering.current.isEmpty then clustering.closed
  else clustering.current.reverse :: clustering.closed

def push (clustering : Clustering) (c : Char) : Clustering :=
  let role := ClusterRole.ofChar c
  match clustering.ending.next? role with
  | some ending => ⟨clustering.closed, c :: clustering.current, ending⟩
  | none => ⟨clustering.all, [c], .ofRole role⟩

end Clustering

def clusters (cs : List Char) : List (List Char) :=
  (cs.foldl Clustering.push {}).all.reverse

end JoinEngine.Text
