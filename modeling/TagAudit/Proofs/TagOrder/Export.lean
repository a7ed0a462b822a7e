import TagAudit.Proofs.Audit.Outcomes
import TagAudit.Proofs.Json.Assignment
import TagAudit.Proofs.TagOrder.Tags

/-!
# Exports with tags in another order

A tag that has an identifier or a name of its own is read the same at every place of its section.
So an export with such tags in another order is the same container with its tags in another order.
-/

namespace TagAudit

/-- An exported tag that is an object with an identifier or a name of its own. -/
def Tag.IsIdentified (raw : Json) : Prop :=
  raw.isObject = true ∧ ((raw.get "tagId").isAbsent = false ∨ (raw.get "name").text ≠ "")

instance (raw : Json) : Decidable (Tag.IsIdentified raw) := inferInstanceAs (Decidable (_ ∧ _))

/-- Such a tag is read the same at every place. -/
theorem Tag.ofJson_eq {raw : Json} (h : Tag.IsIdentified raw) (position : Nat) :
    Tag.ofJson raw position = Tag.ofJson raw 0 := by
  have hid : Field.entityId raw "tagId" "tag" position = Field.entityId raw "tagId" "tag" 0 := by
    unfold Field.entityId
    rcases h.2 with hown | hname
    · simp only [hown]
      rfl
    · have hempty : (raw.get "name").text.isEmpty = false := by simpa using hname
      simp only [hempty]
      rfl
  unfold Tag.ofJson
  rw [hid]

namespace Container

/-- An export with other tags, in its container version if it has one. -/
def exportWithTags (data : Json) (tags : List Json) : Json :=
  if (data.get "containerVersion").isObject then
    data.replace "containerVersion" ((data.get "containerVersion").replace "tag" (.array tags))
  else data.replace "tag" (.array tags)

/-- Only the tags of the container version are others. -/
theorem version_exportWithTags (data : Json) (tags : List Json) :
    version (exportWithTags data tags) = (version data).replace "tag" (.array tags) := by
  unfold version exportWithTags
  cases hi : (data.get "containerVersion").isObject with
  | true =>
    have hd : data.isObject = true := by
      cases data <;> first | rfl | cases hi
    simp only [if_true, Json.get_replace_self hd, Json.isObject_replace, hi]
  | false =>
    have hget : ((data.replace "tag" (.array tags)).get "containerVersion") =
        data.get "containerVersion" := Json.get_replace_of_ne (by decide) _ _
    simp only [hget, hi, Bool.false_eq_true, if_false]

/-- Identified tags are read one by one. -/
theorem tags_ofVersion {version : Json} {raws : List Json}
    (hsection : version.get "tag" = .array raws) (h : ∀ raw ∈ raws, Tag.IsIdentified raw) :
    (ofVersion version).tags = raws.map (Tag.ofJson · 0) := by
  have hobjects : raws.zipIdx.filter (·.1.isObject) = raws.zipIdx := by
    refine List.filter_eq_self.mpr fun entry he => (h entry.1 ?_).1
    exact List.fst_mem_of_mem_zipIdx he
  simp only [ofVersion, entries, hsection, Json.items, hobjects]
  have hplaces : raws.zipIdx.map (fun entry => Tag.ofJson entry.1 entry.2) =
      raws.zipIdx.map ((Tag.ofJson · 0) ∘ Prod.fst) :=
    List.map_congr_left fun entry he => Tag.ofJson_eq (h _ (List.fst_mem_of_mem_zipIdx he)) _
  refine hplaces.trans ?_
  rw [← List.map_map, List.zipIdx_map_fst]

/-- A version with another section of tags is a container with other tags. -/
theorem ofVersion_replace (version exported : Json) :
    ofVersion (version.replace "tag" exported) =
      (ofVersion version).withTags (ofVersion (version.replace "tag" exported)).tags := by
  have hentries : ∀ name : String, name ≠ "tag" →
      entries (version.replace "tag" exported) name = entries version name := by
    intro name ne
    rw [entries, entries, Json.get_replace_of_ne ne]
  simp only [ofVersion, withTags, hentries "trigger" (by decide),
    hentries "variable" (by decide), hentries "builtInVariable" (by decide)]

/-- An export with identified tags in another order is the container with tags in that order. -/
theorem containerOf_exportWithTags {data : Json} {raws others : List Json}
    (hsection : (version data).get "tag" = .array raws)
    (h : ∀ raw ∈ raws, Tag.IsIdentified raw) (hperm : raws.Perm others) :
    ∃ tags, (Audit.containerOf data).tags.Perm tags ∧
      Audit.containerOf (exportWithTags data others) =
        (Audit.containerOf data).withTags tags := by
  have hv : (version data).isObject = true := by
    cases hd : version data <;> first | rfl | rw [hd] at hsection; cases hsection
  obtain ⟨members, rfl⟩ : ∃ members, data = .object members := by
    cases data <;> first | exact ⟨_, rfl⟩ | cases hv
  obtain ⟨changed, hchanged⟩ : ∃ changed,
      exportWithTags (.object members) others = .object changed := by
    unfold exportWithTags
    split <;> exact ⟨_, rfl⟩
  have hversion := version_exportWithTags (.object members) others
  have hothers : (ofVersion (version (exportWithTags (.object members) others))).tags =
      others.map (Tag.ofJson · 0) := by
    refine tags_ofVersion ?_ fun raw hr => h raw (hperm.mem_iff.mpr hr)
    rw [hversion, Json.get_replace_self hv]
  have hread : Audit.containerOf (exportWithTags (.object members) others) =
      ofVersion (version (exportWithTags (.object members) others)) := by
    rw [hchanged]
    rfl
  -- identified tags are all read as at the first place, so their order is that of the section
  refine ⟨others.map (Tag.ofJson · 0), ?_, ?_⟩
  · change (ofVersion (version (.object members))).tags.Perm _
    rw [tags_ofVersion hsection h]
    exact hperm.map _
  · rw [hread, ← hothers, hversion]
    exact ofVersion_replace _ _

end Container

end TagAudit
