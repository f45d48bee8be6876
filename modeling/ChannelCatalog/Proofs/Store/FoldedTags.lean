import ChannelCatalog.Proofs.Glob.Wildcards
import ChannelCatalog.Proofs.Like.Settling
import ChannelCatalog.Proofs.Store.Searching

/-!
# Tags found by folded patterns

A catalog finds a tag if its folded name is like the folded pattern.  Almost every tag whose name is
like the pattern itself is found.  Two characters make exceptions, since folding looks at their
context or makes two of them: a capital sigma of the pattern whose form a wildcard leaves open, and a
dotted capital I of the name for which the pattern has a character wildcard.
-/

namespace ChannelCatalog
namespace Store

open Text

/-- A name and a pattern that match once they are settled match once they are folded. -/
theorem TextCell.likes_lower {name pattern : String}
    (h : (TextCell.text (settle name)).Likes (settle pattern)) :
    ((TextCell.text name).lower .unicode).Likes (Folding.unicode.lower (asciiLower pattern)) := by
  rw [TextCell.lower, Folding.lower, lowercase_asciiLower, likes_text_iff]
  exact Like.holdsFor_lowercase (likes_text_iff.1 h)

theorem TextCell.likes_settle {name pattern : String} (h : (TextCell.text name).Likes pattern)
    (hsigmas : Like.TellsSigmas pattern)
    (hdotted : 'İ' ∈ name.toList → .anyChar ∉ Like.wildcards pattern) :
    (TextCell.text (settle name)).Likes (settle pattern) := by
  rw [likes_text_iff] at h ⊢
  refine Like.holdsFor_settle h hsigmas fun hmem hany => hdotted hmem ?_
  exact List.mem_filter.2 ⟨hany, rfl⟩

namespace State

variable {state : State} {tables : Tables}

/-- A tag of a channel is found if its settled name is like the settled pattern. -/
theorem mem_fetchIds_of_settle (htables : state.tables = some tables)
    (hfolding : state.folding = .unicode) {glob : String} {ids : List ChannelId}
    (h : state.fetchIds (.ofTagPattern glob) = .ok ids) {property : PropertyRecord}
    (hproperty : property ∈ tables.properties) {name : String} {id : ChannelId}
    (hname : property.name = .text name) (hnull : property.value = .null)
    (hchannel : property.channel = some id)
    (hlikes : (TextCell.text (settle name)).Likes (settle (Glob.toLike glob))) : id ∈ ids := by
  have hanswer := ((fetchIds_eq_ok_iff htables).1 h).2
  have hfolded := TextCell.likes_lower hlikes
  rw [← hname, ← hfolding] at hfolded
  exact (mem_fetchIds_tagLike hanswer id).2 ⟨property, hproperty, hchannel, hnull, hfolded⟩

/-- **Which tags a folded pattern finds.**  On every store that a session makes of an empty catalog,
the query for a tag glob succeeds unless the folded pattern is too long.  When it succeeds, it finds
the channel of each tag whose settled name is like the settled pattern; and of each tag whose name is
like the pattern, if the pattern tells the form of each of its capital sigmas, and it has no character
wildcard or the name no dotted capital I. -/
theorem fetchIds_finds (steps : List Step) {state : State}
    (hstate : steps.foldl State.after .catalog = state) (glob : String) :
    ∃ tables, state.tables = some tables ∧
      (Like.isTooLong (lowercase (Glob.toLike glob)) = false →
        ∃ ids, state.fetchIds (.ofTagPattern glob) = .ok ids) ∧
      ∀ ids, state.fetchIds (.ofTagPattern glob) = .ok ids →
        ∀ property ∈ tables.properties, ∀ (name : String) (id : ChannelId),
          property.name = .text name → property.value = .null → property.channel = some id →
            ((TextCell.text (settle name)).Likes (settle (Glob.toLike glob)) → id ∈ ids) ∧
            (property.name.Likes (Glob.toLike glob) → Like.TellsSigmas (Glob.toLike glob) →
              ('İ' ∈ name.toList → .anyChar ∉ Like.wildcards (Glob.toLike glob)) → id ∈ ids) := by
  obtain ⟨⟨tables, htables, hvalid⟩, -⟩ := keeps_valid (Or.inl rfl) steps
  have hfolding : state.folding = .unicode := hstate ▸ folding_foldl_after rfl steps
  rw [hstate] at htables
  refine ⟨tables, htables, fun hshort => ?_, ?_⟩
  · have hfolded : Like.isTooLong (state.folding.lower (asciiLower (Glob.toLike glob))) = false := by
      rwa [hfolding, Folding.lower, lowercase_asciiLower]
    have hread : Limits.readIdQuery (.ofTagPattern glob) = .ok () := rfl
    obtain ⟨ids, hids⟩ := exists_fetchIds_tagLike hvalid.owned hfolded
    exact ⟨ids, (fetchIds_eq_ok_iff htables).2 ⟨hread, hids⟩⟩
  · intro ids hids property hproperty name id hname hnull hchannel
    have hfinds := mem_fetchIds_of_settle htables hfolding hids hproperty hname hnull hchannel
    refine ⟨hfinds, fun hlikes hsigmas hdotted => hfinds ?_⟩
    rw [hname] at hlikes
    exact TextCell.likes_settle hlikes hsigmas hdotted

/-- A session that makes a channel with two tags in capitals, one with a sigma and one with a dotted
I. -/
def capitalTagging : List Step :=
  [.insertChannel none (.text "c1") (.text "o"),
    .insertProperty (some ⟨1⟩) (.text "ΑΣΑ") .null (.text "o"),
    .insertProperty (some ⟨1⟩) (.text "İX") .null (.text "o")]

/-- The tag with a sigma. -/
def sigmaTag : PropertyRecord :=
  ⟨some ⟨1⟩, .text "ΑΣΑ", .null, .text "o"⟩

/-- The tag with a dotted I. -/
def dottedTag : PropertyRecord :=
  ⟨some ⟨1⟩, .text "İX", .null, .text "o"⟩

/-- The tables that the session leaves. -/
def capitalTagged : Tables :=
  ⟨.reference, [⟨⟨1⟩, .text "c1", .text "o"⟩], [sigmaTag, dottedTag], 1⟩

/-- The sigma of the pattern has a letter ahead, so its form is told and the tag is found. -/
theorem fetchIds_finds_sigmaTag :
    ∃ ids, (capitalTagging.foldl State.after .catalog).fetchIds (.ofTagPattern "*ΣΑ") = .ok ids ∧
      ⟨1⟩ ∈ ids := by
  have hstate : capitalTagging.foldl State.after .catalog =
      ⟨some capitalTagged, .unicode, none⟩ := by decide
  obtain ⟨tables, htables, hsucceeds, hfinds⟩ := fetchIds_finds capitalTagging hstate "*ΣΑ"
  cases htables
  obtain ⟨ids, hids⟩ := hsucceeds (by decide)
  have hlikes : sigmaTag.name.Likes (Glob.toLike "*ΣΑ") := by decide
  have hsigmas : Like.TellsSigmas (Glob.toLike "*ΣΑ") := by decide
  have hdotted : 'İ' ∈ "ΑΣΑ".toList → .anyChar ∉ Like.wildcards (Glob.toLike "*ΣΑ") := by decide
  rw [hstate]
  exact ⟨ids, hids, (hfinds ids hids sigmaTag (by decide) "ΑΣΑ" ⟨1⟩ rfl rfl rfl).2 hlikes hsigmas
    hdotted⟩

/-- Both names are like a pattern, and neither tag is found by it.  The sigma ends a word of the first
pattern and not of the name, so the two are folded to different letters.  The character wildcard of
the second one does not stand for two characters. -/
theorem fetchIds_misses :
    (capitalTagging.foldl State.after .catalog).tables = some capitalTagged ∧
      sigmaTag ∈ capitalTagged.properties ∧ sigmaTag.name.Likes (Glob.toLike "ΑΣ*") ∧
      (capitalTagging.foldl State.after .catalog).fetchIds (.ofTagPattern "ΑΣ*") = .ok [] ∧
      dottedTag ∈ capitalTagged.properties ∧ dottedTag.name.Likes (Glob.toLike "?X") ∧
      (capitalTagging.foldl State.after .catalog).fetchIds (.ofTagPattern "?X") = .ok [] := by
  decide

end State
end Store
end ChannelCatalog
