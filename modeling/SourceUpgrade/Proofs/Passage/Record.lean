import SourceUpgrade.Passage.Record
import SourceUpgrade.Proofs.Fingerprint
import SourceUpgrade.Proofs.Passage.Normal
import SourceUpgrade.Proofs.Passage.Window
import SourceUpgrade.Proofs.Span

namespace SourceUpgrade.Passage

/-!
# Passages and their identifiers

The passages of a page are the windows of its normal form, numbered from zero on. An identifier is
the beginning of the hash of a text in which address, hash and number stand between bars. An address
may have bars itself; the other two never have, so that the text can be taken apart from its end.
`records_cover` has both: what passages there are, and that no two have the same identifier, unless
different texts have the same hash.
-/

/-! ## Passages of one page -/

namespace Page

/-- Whether a page was made of its content, so that its hash belongs to it. -/
def IsBuilt (page : Page) : Prop :=
  page = .ofContent page.url page.framework page.title page.content

instance (page : Page) : Decidable page.IsBuilt :=
  inferInstanceAs (Decidable (page = _))

/-- What identifies a page. -/
def key (page : Page) : String × String :=
  (page.url, page.contentHash)

/-- Whether passages are those of a page, in order. -/
structure IsCutInto
    (page : Page)
    (size : WindowSize)
    (createdAt : Nat)
    (passages : List Record) :
    Prop where
  none_iff : passages = [] ↔ normalizeString page.content = ""
  numbered : passages.map Record.index = List.range passages.length
  cut :
    passages ≠ [] →
      size.Cuts (normalizeString page.content).toList
        (passages.map fun passage => passage.text.toList)
  ofPage :
    ∀ passage ∈ passages,
      passage =
        { id := identifier page.url page.contentHash passage.index
          text := passage.text
          framework := page.framework
          url := page.url
          title := page.title
          contentHash := page.contentHash
          index := passage.index
          createdAt := createdAt }

/-- The windows of a trimmed text cut this very text. -/
theorem cuts_windowStrings
    (size : WindowSize)
    {text : String}
    (trimmed : Text.IsTrimmed text.toList) :
    size.Cuts text.toList ((windowStrings size text).map String.toList) := by
  have asLists : (windowStrings size text).map String.toList = windows size text.toList := by
    simp [windowStrings]
  rw [asLists, windows_eq_map, Text.trim_eq_self trimmed]
  exact cuts_map_window size text.toList

/-- There is at least one window of a text. -/
theorem windowStrings_ne_nil (size : WindowSize) (text : String) : windowStrings size text ≠ [] := by
  simp [windowStrings, windows_eq_map]

variable (page : Page) (size : WindowSize) (createdAt : Nat)

/-- The passages of a page with text are its windows with their numbers. -/
theorem records_of_text
    (someText : normalizeString page.content ≠ "") :
    page.records size createdAt =
      (windowStrings size (normalizeString page.content)).zipIdx.map fun (window, index) =>
        page.record createdAt index window := by
  have notEmpty : (normalizeString page.content).isEmpty = false := by
    simpa using someText
  rw [records]
  dsimp only
  rw [notEmpty]
  rfl

theorem records_of_no_text
    (noText : normalizeString page.content = "") :
    page.records size createdAt = [] := by
  rw [records, noText]
  rfl

/-- The passages of a page cut its normal form. -/
theorem isCutInto_records : page.IsCutInto size createdAt (page.records size createdAt) := by
  by_cases noText : normalizeString page.content = ""
  · rw [records_of_no_text page size createdAt noText]
    exact ⟨by simp [noText], rfl, fun some => absurd rfl some, by simp⟩
  · rw [records_of_text page size createdAt noText]
    have someWindows := windowStrings_ne_nil size (normalizeString page.content)
    refine ⟨?_, ?_, ?_, ?_⟩
    · simp [noText, someWindows]
    · simp [Function.comp_def, record, List.zipIdx_map_snd, List.range_eq_range']
    · intro _
      have texts :
          ((windowStrings size (normalizeString page.content)).zipIdx.map fun (window, index) =>
              page.record createdAt index window).map (fun passage => passage.text.toList) =
            (windowStrings size (normalizeString page.content)).map String.toList := by
        rw [List.map_map]
        calc
          _ = ((windowStrings size (normalizeString page.content)).zipIdx.map Prod.fst).map
                String.toList := by
            rw [List.map_map]
            rfl
          _ = _ := by
            rw [List.zipIdx_map_fst]
      rw [texts]
      refine cuts_windowStrings size ?_
      rw [normalizeString, String.toList_ofList]
      exact isTrimmed_normalize _
    · intro passage member
      obtain ⟨window, -, rfl⟩ := List.mem_map.mp member
      rfl

end Page

/-! ## Identifiers -/

theorem decimal_inj {first second : Nat} (same : Text.decimal first = Text.decimal second) :
    first = second := by
  have sameDigits : Nat.toDigits 10 first = Nat.toDigits 10 second := String.ofList_inj.mp same
  calc
    first = Nat.ofDigitChars 10 (Nat.toDigits 10 first) 0 := Nat.ofDigitChars_ten_toDigits.symm
    _ = Nat.ofDigitChars 10 (Nat.toDigits 10 second) 0 := by rw [sameDigits]
    _ = second := Nat.ofDigitChars_ten_toDigits

theorem bar_not_mem_decimal (value : Nat) : '|' ∉ (Text.decimal value).toList := by
  rw [Text.decimal, String.toList_ofList]
  intro member
  have isDigit := Nat.isDigit_of_mem_toDigits (by decide) (by decide) member
  revert isDigit
  decide

/-- What an identifier is made of can be told from its text, if there is no bar in the hash. -/
theorem identifierText_inj
    {url other hash otherHash : String}
    {index otherIndex : Nat}
    (noBar : '|' ∉ hash.toList)
    (noBarToo : '|' ∉ otherHash.toList)
    (same : identifierText url hash index = identifierText other otherHash otherIndex) :
    url = other ∧ hash = otherHash ∧ index = otherIndex := by
  have bar : "|".toList = ['|'] := rfl
  -- There may be bars in an address, but none behind the last but one of the whole text.
  have sameChars :
      (url.toList ++ '|' :: hash.toList) ++ '|' :: (Text.decimal index).toList =
        (other.toList ++ '|' :: otherHash.toList) ++ '|' :: (Text.decimal otherIndex).toList := by
    simpa [identifierText, bar] using congrArg String.toList same
  obtain ⟨sameFront, sameIndex⟩ :=
    append_cons_inj_of_not_mem (bar_not_mem_decimal index) (bar_not_mem_decimal otherIndex)
      sameChars
  obtain ⟨sameUrl, sameHash⟩ := append_cons_inj_of_not_mem noBar noBarToo sameFront
  exact ⟨String.toList_inj.mp sameUrl, String.toList_inj.mp sameHash,
    decimal_inj (String.toList_inj.mp sameIndex)⟩

/-- There is no bar in the hash of a page that was made of its content. -/
theorem Page.IsBuilt.bar_not_mem
    {page : Page}
    (built : page.IsBuilt) :
    '|' ∉ page.contentHash.toList := by
  rw [built]
  intro member
  have isDigit := Digest.isHexDigit_of_mem_fingerprint member
  revert isDigit
  decide

namespace Record

/-- Where a passage stands: its page, told by address and hash, and its position there. -/
def place (record : Record) : (String × String) × Nat :=
  ((record.url, record.contentHash), record.index)

/-- The text of which the identifier of a passage is the hash. -/
def identified (record : Record) : String :=
  identifierText record.url record.contentHash record.index

/-- Whether no two different texts that identify passages have the same hash. -/
def CollisionFree (records : List Record) : Prop :=
  ∀ first ∈ records, ∀ second ∈ records,
    Digest.fingerprint identifierLength first.identified =
        Digest.fingerprint identifierLength second.identified →
      first.identified = second.identified

/-- Where all hashes are different, none belongs to two texts. -/
theorem collisionFree_of_nodup
    {records : List Record}
    (different :
      (records.map fun record =>
        Digest.fingerprint identifierLength record.identified).Nodup) :
    CollisionFree records := by
  intro first ofFirst second ofSecond same
  rw [List.inj_on_of_nodup_map different ofFirst ofSecond same]

end Record

section

variable {pages : List Page} {size : WindowSize} {createdAt : Nat}

/-- The places of passages of a page are its own with the first so many numbers. -/
theorem Page.places_records (page : Page) (size : WindowSize) (createdAt : Nat) :
    (page.records size createdAt).map Record.place =
      (List.range (page.records size createdAt).length).map (Prod.mk page.key) := by
  have cut := page.isCutInto_records size createdAt
  rw [← cut.numbered, List.map_map]
  refine List.map_congr_left fun passage member => ?_
  rw [cut.ofPage passage member]
  rfl

theorem Page.key_of_mem_places
    (page : Page)
    {place : (String × String) × Nat}
    (member : place ∈ (page.records size createdAt).map Record.place) :
    place.1 = page.key := by
  rw [page.places_records] at member
  obtain ⟨_, -, rfl⟩ := List.mem_map.mp member
  rfl

/-- Pages with different keys have passages at different places. -/
theorem nodup_places
    (different : (pages.map Page.key).Nodup) :
    ((records pages size createdAt).map Record.place).Nodup := by
  rw [records, List.map_flatMap, List.nodup_flatMap]
  constructor
  · intro page _
    rw [page.places_records]
    exact List.nodup_range.map fun _ _ same => (Prod.mk.inj same).2
  · refine (List.pairwise_map.mp different).imp ?_
    intro page other otherKey place ofPage ofOther
    exact otherKey ((page.key_of_mem_places ofPage).symm.trans (other.key_of_mem_places ofOther))

/-- Every passage is a passage of one of the pages. -/
theorem exists_page_of_mem
    {record : Record}
    (member : record ∈ records pages size createdAt) :
    ∃ page ∈ pages,
      record.url = page.url ∧
        record.contentHash = page.contentHash ∧
        record.id = Digest.fingerprint identifierLength record.identified := by
  obtain ⟨page, among, ofPage⟩ := List.mem_flatMap.mp member
  have told := (page.isCutInto_records size createdAt).ofPage record ofPage
  refine ⟨page, among, ?_, ?_, ?_⟩
  · rw [told]
  · rw [told]
  · rw [told]
    rfl

/-- The texts that identify passages differ if the keys of pages do. -/
theorem nodup_identified
    (built : ∀ page ∈ pages, page.IsBuilt)
    (different : (pages.map Page.key).Nodup) :
    ((records pages size createdAt).map Record.identified).Nodup := by
  have places : ((records pages size createdAt).map Record.place).Nodup := nodup_places different
  refine (List.Nodup.of_map _ places).map_on ?_
  intro first ofFirst second ofSecond same
  obtain ⟨page, among, -, sameHash, -⟩ := exists_page_of_mem ofFirst
  obtain ⟨other, amongToo, -, sameHashToo, -⟩ := exists_page_of_mem ofSecond
  have noBar : '|' ∉ first.contentHash.toList := sameHash ▸ (built page among).bar_not_mem
  have noBarToo : '|' ∉ second.contentHash.toList :=
    sameHashToo ▸ (built other amongToo).bar_not_mem
  obtain ⟨sameUrl, sameHash, sameIndex⟩ := identifierText_inj noBar noBarToo same
  refine List.inj_on_of_nodup_map places ofFirst ofSecond ?_
  rw [Record.place, Record.place, sameUrl, sameHash, sameIndex]

/--
The passages of pages come page by page. Those of a page without text are none, those of any other
page are the windows of its normal form, numbered from zero on, with what is known of the page. If no
two pages have the same address and hash, no two passages are identified by the same text; their
identifiers are different then, unless different texts have the same hash.
-/
theorem records_cover
    (size : WindowSize)
    (createdAt : Nat)
    (built : ∀ page ∈ pages, page.IsBuilt) :
    (∃ groups,
      records pages size createdAt = groups.flatten ∧
        List.Forall₂ (fun page passages => page.IsCutInto size createdAt passages) pages groups) ∧
      ((pages.map Page.key).Nodup →
        ((records pages size createdAt).map Record.identified).Nodup ∧
          (Record.CollisionFree (records pages size createdAt) →
            ((records pages size createdAt).map Record.id).Nodup)) := by
  constructor
  · refine ⟨pages.map fun page => page.records size createdAt, ?_, ?_⟩
    · rw [records, List.flatMap_def]
    · rw [List.forall₂_map_right_iff, List.forall₂_same]
      exact fun page _ => page.isCutInto_records size createdAt
  · intro different
    have texts : ((records pages size createdAt).map Record.identified).Nodup :=
      nodup_identified built different
    refine ⟨texts, fun free => ?_⟩
    refine (List.Nodup.of_map _ texts).map_on ?_
    intro first ofFirst second ofSecond sameId
    obtain ⟨_, -, -, -, hashed⟩ := exists_page_of_mem ofFirst
    obtain ⟨_, -, -, -, hashedToo⟩ := exists_page_of_mem ofSecond
    rw [hashed, hashedToo] at sameId
    exact List.inj_on_of_nodup_map texts ofFirst ofSecond (free first ofFirst second ofSecond sameId)

end

/-- Both passages of one page and the passage of another one, whose address ends as if numbered. -/
theorem records_cover_bars :
    let docs := Page.ofContent "docs" "nextjs" "Docs" " ab\r\n\n c"
    let blank := Page.ofContent "docs|0" "react" "Blank" " \n "
    let nested := Page.ofContent "docs|1" "nextjs" "Docs" "de"
    let passages := records [docs, blank, nested] ⟨3, 1⟩ 0
    (∀ page ∈ [docs, blank, nested], page.IsBuilt) ∧
      ([docs, blank, nested].map Page.key).Nodup ∧
      Record.CollisionFree passages ∧
      passages.map Record.text = ["ab\n", "\nc", "de"] ∧
      (passages.map Record.id).Nodup := by
  intro docs blank nested passages
  have built : ∀ page ∈ [docs, blank, nested], page.IsBuilt := by
    simp only [List.forall_mem_cons]
    exact ⟨rfl, rfl, rfl, List.forall_mem_nil _⟩
  have different : ([docs, blank, nested].map Page.key).Nodup := by
    decide +kernel
  have free : Record.CollisionFree passages := by
    refine Record.collisionFree_of_nodup ?_
    decide +kernel
  have texts : passages.map Record.text = ["ab\n", "\nc", "de"] := by
    decide +kernel
  exact ⟨built, different, free, texts,
    ((records_cover ⟨3, 1⟩ 0 built).2 different).2 free⟩

end SourceUpgrade.Passage
