import S7cmd.Foundation.Sequences
import S7cmd.UtilBin.Operands

/-!
# Tags on the command line

Three subcommands take tags as `key=value` pairs, joined by `&` and percent-encoded.
-/

namespace S7cmd.UtilBin

open Foundation

structure Tag where
  key : Text
  value : Text
  deriving DecidableEq, Repr

/-- An error of the decoder, told apart by what was decoded. -/
def decodeAs (decode : Text → Except Text Text) (what text : Text) : Except Chain Text :=
  (decode text).mapError fun cause => ["invalid percent-encoding in tag ".toList ++ what ++
    ": ".toList ++ cause]

/-- Only the first `=` of a pair separates; without one the value is empty. -/
def decodeTag (decode : Text → Except Text Text) (pair : Text) : Except Chain Tag := do
  let key ← decodeAs decode "key".toList (Delimited.front '=' pair)
  let value ← decodeAs decode "value".toList (Delimited.after '=' pair)
  return { key, value }

def parseTaggingToTags (decode : Text → Except Text Text) (text : Text) :
    Except Chain (List Tag) :=
  if text = [] then .ok []
  else (text.splitOn '&').mapM (decodeTag decode)

/-! ## Reading back what was written -/

/-- Tags as they are written for these subcommands. -/
def formatTagging (encode : Text → Text) (tags : List Tag) : Text :=
  Text.join ['&'] (tags.map fun tag => encode tag.key ++ '=' :: encode tag.value)

/-- What the encoding of these tags must keep to: the decoder undoes it, no `&` is left in
a pair and no `=` in a key. -/
structure Encoded (decode : Text → Except Text Text) (encode : Text → Text)
    (tags : List Tag) : Prop where
  key : ∀ tag ∈ tags, decode (encode tag.key) = .ok tag.key
  value : ∀ tag ∈ tags, decode (encode tag.value) = .ok tag.value
  key_clear : ∀ tag ∈ tags, '&' ∉ encode tag.key ∧ '=' ∉ encode tag.key
  value_clear : ∀ tag ∈ tags, '&' ∉ encode tag.value

theorem decodeAs_of_ok {decode : Text → Except Text Text} {what text decoded : Text}
    (hdecode : decode text = .ok decoded) : decodeAs decode what text = .ok decoded := by
  rw [decodeAs, hdecode]
  rfl

/-- A pair is read at its first `=`. -/
theorem decodeTag_append {decode : Text → Except Text Text} {rawKey rawValue : Text} {tag : Tag}
    (hclear : '=' ∉ rawKey) (hkey : decode rawKey = .ok tag.key)
    (hvalue : decode rawValue = .ok tag.value) :
    decodeTag decode (rawKey ++ '=' :: rawValue) = .ok tag := by
  have hfront : Delimited.front '=' (rawKey ++ '=' :: rawValue) = rawKey := by
    rw [Delimited.front_append hclear, Delimited.front_cons_self, List.append_nil]
  have hafter : Delimited.after '=' (rawKey ++ '=' :: rawValue) = rawValue := by
    rw [Delimited.after_append hclear, Delimited.after_cons_self]
  rw [decodeTag, hfront, hafter, decodeAs_of_ok hkey, decodeAs_of_ok hvalue]
  rfl

theorem mapM_decodeTag {decode : Text → Except Text Text} {encode : Text → Text}
    {tags : List Tag} (hencoded : Encoded decode encode tags) :
    (tags.map fun tag => encode tag.key ++ '=' :: encode tag.value).mapM (decodeTag decode) =
      .ok tags := by
  induction tags with
  | nil => rfl
  | cons tag rest ih =>
      have hmem : tag ∈ tag :: rest := List.mem_cons_self
      have hrest := ih
        { key := fun other hother => hencoded.key other (List.mem_cons_of_mem _ hother)
          value := fun other hother => hencoded.value other (List.mem_cons_of_mem _ hother)
          key_clear := fun other hother =>
            hencoded.key_clear other (List.mem_cons_of_mem _ hother)
          value_clear := fun other hother =>
            hencoded.value_clear other (List.mem_cons_of_mem _ hother) }
      have hfirst := decodeTag_append (hencoded.key_clear tag hmem).2 (hencoded.key tag hmem)
        (hencoded.value tag hmem)
      rw [List.map_cons, List.mapM_cons, hfirst, hrest]
      rfl

/-- Tags are read back as they were written, in order and with nothing lost: also those
with an empty value, those whose value has a `=` of its own, and no tags at all. -/
theorem parseTaggingToTags_formatTagging (decode : Text → Except Text Text)
    (encode : Text → Text) (tags : List Tag) (hencoded : Encoded decode encode tags) :
    parseTaggingToTags decode (formatTagging encode tags) = .ok tags := by
  have hpair : ∀ pair ∈ tags.map (fun tag => encode tag.key ++ '=' :: encode tag.value),
      '&' ∉ pair := by
    intro pair hmem
    obtain ⟨tag, htag, rfl⟩ := List.mem_map.mp hmem
    simp [(hencoded.key_clear tag htag).1, hencoded.value_clear tag htag]
  cases tags with
  | nil => rfl
  | cons tag rest =>
      have hsplit : (formatTagging encode (tag :: rest)).splitOn '&' =
          (tag :: rest).map fun tag => encode tag.key ++ '=' :: encode tag.value :=
        List.splitOn_intercalate '&' hpair (by simp)
      have hne : formatTagging encode (tag :: rest) ≠ [] := by
        intro hnil
        rw [hnil, List.splitOn_nil, List.map_cons] at hsplit
        exact absurd (List.cons.inj hsplit).1 (by simp)
      rw [parseTaggingToTags, if_neg hne, hsplit]
      exact mapM_decodeTag hencoded

/-- A `&` in a key, written as `%26`. -/
theorem parseTaggingToTags_formatTagging_ampersand :
    parseTaggingToTags
        (fun text => .ok (if text = "a%26b".toList then "a&b".toList else text))
        (formatTagging (fun text => if text = "a&b".toList then "a%26b".toList else text)
          [⟨"a&b".toList, "c=d".toList⟩, ⟨"e".toList, []⟩]) =
      .ok [⟨"a&b".toList, "c=d".toList⟩, ⟨"e".toList, []⟩] := by
  apply parseTaggingToTags_formatTagging
  constructor <;> decide

end S7cmd.UtilBin
