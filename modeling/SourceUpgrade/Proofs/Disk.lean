import SourceUpgrade.Disk
import SourceUpgrade.Proofs.Folder

namespace SourceUpgrade.Disk

/-!
# Writing to disks

No folder goes away when a file is written. So a path leads after a write to where it led before,
from the root or from the working folder, and what was written is read again.
-/

variable {disk written : Disk} {path text : String} {place : Location}

/-- Putting a text changes the file at that place alone. -/
theorem textAt?_put
    (disk : Disk)
    (place : Location)
    (text : String)
    (other : Location) :
    (disk.put place text).textAt? other =
      if other = place then some text else disk.textAt? other :=
  Folder.textAt?_put disk.toFolder place text other

/-- There is a folder on the way to one that is there, and where a file lies below. -/
theorem hasFolder_iff :
    disk.hasFolder place ↔
      (∃ other ∈ disk.here :: disk.folders, place <+: other) ∨
        ∃ other ∈ disk.files.map Prod.fst, place <+: other ∧ place.length < other.length := by
  simp [hasFolder, List.isPrefixOf_iff_prefix]

/-- No folder goes away when a file is put. -/
theorem hasFolder_put
    (there : disk.hasFolder place)
    (target : Location)
    (text : String) :
    (disk.put target text).hasFolder place := by
  rw [hasFolder_iff] at there ⊢
  rcases there with stands | ⟨other, member, below⟩
  · exact .inl stands
  · exact .inr ⟨other, Folder.mem_places_putIn member target text, below⟩

/-- Names that lead somewhere lead there, too, once a file has been put. -/
theorem follow_put
    {origin : Location}
    {names : List String}
    (leads : disk.follow origin names = some place)
    (target : Location)
    (text : String) :
    (disk.put target text).follow origin names = some place := by
  -- One case for each way through `follow`: only that into a folder asks what there is.
  fun_induction follow disk origin names with
  | case1 origin | case2 origin name isFolder =>
      cases leads
  | case3 origin name isFile =>
      rw [follow, if_neg isFile]
      exact leads
  | case4 origin name rest more stays inductionHypothesis =>
      rw [follow, if_pos stays]
      · exact inductionHypothesis leads
      · exact more
  | case5 origin name rest more goesOn up inductionHypothesis =>
      rw [follow, if_neg goesOn, if_pos up]
      · exact inductionHypothesis leads
      · exact more
  | case6 origin name rest more goesOn down there inductionHypothesis =>
      rw [follow, if_neg goesOn, if_neg down, if_pos (hasFolder_put there target text)]
      · exact inductionHypothesis leads
      · exact more
  | case7 origin name rest more goesOn down missing =>
      cases leads

/-- A path leads to where it led before a file was put. -/
theorem place?_put
    (leads : disk.place? path = some place)
    (target : Location)
    (text : String) :
    (disk.put target text).place? path = some place := by
  unfold place? at leads ⊢
  split at leads
  · rename_i known
    rw [if_pos known]
    exact follow_put leads target text
  · cases leads

/-- A text is written to where a path leads, unless there is a folder. -/
theorem target?_eq_some_iff :
    disk.target? path = some place ↔
      disk.place? path = some place ∧ disk.hasFolder place = false := by
  simp [target?, Option.filter_eq_some_iff]

theorem write?_eq_some_iff :
    disk.write? path text = some written ↔
      ∃ place, disk.target? path = some place ∧ disk.put place text = written := by
  simp [write?]

/-- What has been put into a file is read at every path that leads to it. -/
theorem read?_put
    (leads : disk.place? path = some place)
    (text : String) :
    (disk.put place text).read? path = some text := by
  rw [read?, place?_put leads, Option.bind_some, textAt?_put, if_pos rfl]

/-- What has been written is read. -/
theorem read?_of_write?
    (accepted : disk.write? path text = some written) :
    written.read? path = some text := by
  obtain ⟨place, target, rfl⟩ := write?_eq_some_iff.mp accepted
  exact read?_put (target?_eq_some_iff.mp target).1 text

/-- A write without a file to go to leaves all as it was. -/
theorem write?_of_no_target
    (noTarget : disk.target? path = none)
    (text : String) :
    (disk.write? path text).getD disk = disk := by
  rw [write?, noTarget, Option.map_none, Option.getD_none]

end SourceUpgrade.Disk
