import ChannelCatalog.Proofs.Criteria.LetterCase
import ChannelCatalog.Proofs.Like.Settling
import Mathlib.Data.List.TakeWhile

/-!
# What a store reads of a text

A store compares what it reads of two texts: each up to its first null character, with the last two
characters of the basic plane taken for the replacement character.  Most texts have none of these
characters and are read as they are.  Folding a text does not change how it is read.
-/

namespace ChannelCatalog
namespace Like

/-- What `LIKE` reads of a text. -/
def asRead (text : String) : String :=
  String.ofList (readText text.toList)

@[simp] theorem toList_asRead (text : String) : (asRead text).toList = readText text.toList := by
  simp [asRead]

/-- A text in which no character is hidden from `LIKE` or read as another one. -/
def IsReadWhole (text : String) : Prop :=
  ∀ c ∈ text.toList, c ≠ '\x00' ∧ c ≠ '\uFFFE' ∧ c ≠ '\uFFFF'

instance (text : String) : Decidable (IsReadWhole text) :=
  List.decidableBAll (fun c => c ≠ '\x00' ∧ c ≠ '\uFFFE' ∧ c ≠ '\uFFFF') text.toList

theorem asRead_eq_self {text : String} (h : IsReadWhole text) : asRead text = text := by
  have hall : text.toList.takeWhile (· ≠ '\x00') = text.toList :=
    List.takeWhile_eq_self_iff.2 fun c hc => decide_eq_true (h c hc).1
  have hsame : ∀ c ∈ text.toList, readChar c = c := fun c hc =>
    if_neg (not_or.2 (h c hc).2)
  rw [← String.toList_inj, toList_asRead, readText, hall, List.map_congr_left hsame, List.map_id']

theorem asRead_asciiLower (text : String) :
    asRead (Text.asciiLower text) = Text.asciiLower (asRead text) := by
  rw [← String.toList_inj, toList_asRead, Text.toList_asciiLower, readText_map keepsReading_toLower,
    Text.toList_asciiLower, toList_asRead]

theorem asRead_lowercase (text : String) :
    asRead (Text.lowercase text) = Text.lowercase (asRead text) := by
  rw [← String.toList_inj, toList_asRead, Text.toList_lowercase, Text.lowerFrom_eq_map_settleFrom,
    readText_map keepsReading_smallChar, readText_settleFrom, Text.toList_lowercase, toList_asRead,
    Text.lowerFrom_eq_map_settleFrom]

end Like

/-- A folded text is read as what is read of the text, folded. -/
theorem Store.Folding.asRead_lower (folding : Store.Folding) (text : String) :
    Like.asRead (folding.lower text) = folding.lower (Like.asRead text) := by
  cases folding with
  | ascii => exact Like.asRead_asciiLower text
  | unicode => exact Like.asRead_lowercase text

end ChannelCatalog
