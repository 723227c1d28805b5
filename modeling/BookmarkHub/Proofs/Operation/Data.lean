import BookmarkHub.Operation.Call
import BookmarkHub.Proofs.Json.Records

/-!
# Data of operations that is read back

Every kind of data that an operation takes is written in order, and it is read
back with all its fields, those with a default included.
-/

set_option autoImplicit false

namespace BookmarkHub

open Json

theorem wordsJson_ordered (words : List UInt64) : (wordsJson words).IsOrdered := by
  refine areOrdered_iff.2 fun item member => ?_
  obtain ⟨word, _, rfl⟩ := List.mem_map.1 member
  trivial

theorem readWords_back : ReadsBack (readList readWord64) wordsJson := readList_back readWord64_back

/-! ## Tags -/

namespace NewTag

theorem toJson_ordered (tag : NewTag) : tag.toJson.IsOrdered := by
  refine ⟨?_, trivial, trivial, ofTexts_ordered tag.names, trivial⟩
  simp only [KeysIncrease, List.pairwise_cons, List.forall_mem_cons]
  decide

theorem read_back : ReadsBack read toJson := by
  intro origin tag roomy
  have names := readTexts_back origin tag.names roomy
  have draft : shape.read {} origin (Document.ofJson tag.toJson) =
      .ok ⟨some tag.names, some tag.description, some tag.createIntermediary⟩ := by
    refine readRecord_back roomy ?_
    rw [Document.ofMembers, readNamed_field rfl rfl rfl, Document.ofMembers,
      readNamed_field rfl rfl rfl, Document.ofMembers, readNamed_field rfl rfl names]
    rfl
  simp only [read, draft]
  rfl

end NewTag

namespace TagUpdate

theorem toJson_ordered (update : TagUpdate) : update.toJson.IsOrdered := by
  refine ⟨?_, trivial, ofTexts_ordered update.names, trivial, trivial⟩
  simp only [KeysIncrease, List.pairwise_cons, List.forall_mem_cons]
  decide

theorem read_back : ReadsBack read toJson := by
  intro origin update roomy
  have names := readTexts_back origin update.names roomy
  have parent := readWord64_back origin update.parent roomy
  have draft : shape.read {} origin (Document.ofJson update.toJson) =
      .ok ⟨some update.names, some update.description, some update.parent⟩ := by
    refine readRecord_back roomy ?_
    rw [Document.ofMembers, readNamed_field rfl rfl rfl, Document.ofMembers,
      readNamed_field rfl rfl names, Document.ofMembers, readNamed_field rfl rfl parent]
    rfl
  simp only [read, draft]
  rfl

end TagUpdate

theorem LeafPolicy.read_back : ReadsBack read fun policy => .text policy.name := by
  intro origin policy _
  cases policy <;> cases origin <;> rfl

/-! ## Bookmarks -/

namespace Bookmark

theorem toJson_ordered (bookmark : Bookmark) : bookmark.toJson.IsOrdered := by
  refine ⟨?_, trivial, wordsJson_ordered bookmark.tags, trivial, trivial, trivial⟩
  simp only [KeysIncrease, List.pairwise_cons, List.forall_mem_cons]
  decide

theorem read_back : ReadsBack read toJson := by
  intro origin bookmark roomy
  have tags := readWords_back origin bookmark.tags roomy
  have draft : shape.read {} origin (Document.ofJson bookmark.toJson) =
      .ok ⟨some bookmark.url, some bookmark.title, some bookmark.comment,
        some bookmark.tags⟩ := by
    refine readRecord_back roomy ?_
    rw [Document.ofMembers, readNamed_field rfl rfl rfl, Document.ofMembers,
      readNamed_field rfl rfl tags, Document.ofMembers, readNamed_field rfl rfl rfl,
      Document.ofMembers, readNamed_field rfl rfl rfl]
    rfl
  simp only [read, draft]
  rfl

end Bookmark

end BookmarkHub
