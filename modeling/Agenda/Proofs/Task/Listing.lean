import Agenda.Proofs.Calendar.Codec
import Agenda.Proofs.Outcome
import Agenda.Proofs.Text.ByteOrder
import Agenda.Proofs.Text.Pattern
import Agenda.Proofs.Text.Words
import Agenda.Task.Operation

/-!
# Listings

A search sorts the rows, keeps those that its term selects and cuts the rest off.  What it keeps is said here
without terms being parsed and patterns being matched: blanks select all rows, the typed form of a day selects
the rows of that day, and any other text selects the rows that contain it.

* `Search.parse_of_blank`, `Search.parse_of_day`, `Search.parse_of_text` — what a term asks for.
* `Table.IsListing`, `Table.pairwise_ordered` — the order of listings.
* `Table.Matches`, `Table.search_lists_matches` — what a search finds, and in which order.
-/

namespace Agenda

open Text

/-! ### What a term asks for -/

namespace Search

variable {term : String} {d : Date}

/-- The typed form of some day, with blanks around it or not. -/
def IsDay (term : String) : Prop := ∃ d : Date, d.HasFourDigitYear ∧ trim term.toList = d.dotted

theorem ofDotted?_eq_some_iff :
    Date.ofDotted? term = some d ↔ d.HasFourDigitYear ∧ trim term.toList = d.dotted :=
  Date.ofDottedChars?_eq_some_iff

theorem ofDotted?_eq_none_iff : Date.ofDotted? term = none ↔ ¬ IsDay term := by
  rw [IsDay, Option.eq_none_iff_forall_ne_some, not_exists]
  exact forall_congr' fun d => not_congr ofDotted?_eq_some_iff

/-- No day is blank. -/
theorem not_isBlankText_of_isDay (h : IsDay term) : ¬ IsBlankText term.toList := by
  obtain ⟨d, -, hd⟩ := h
  rw [← trim_eq_nil_iff, hd, Date.dotted]
  simp

theorem parse_of_blank (h : IsBlankText term.toList) : parse term = .all := if_pos (trimmed_eq_empty_iff.2 h)

theorem parse_of_not_blank (h : ¬ IsBlankText term.toList) :
    parse term = (Date.ofDotted? term).elim (.text (trimmed term)) .day := by
  rw [parse, if_neg (mt trimmed_eq_empty_iff.1 h)]
  cases Date.ofDotted? term <;> rfl

theorem parse_of_day (hyear : d.HasFourDigitYear) (h : trim term.toList = d.dotted) : parse term = .day d := by
  rw [parse_of_not_blank (not_isBlankText_of_isDay ⟨d, hyear, h⟩), ofDotted?_eq_some_iff.2 ⟨hyear, h⟩]
  rfl

theorem parse_of_text (hblank : ¬ IsBlankText term.toList) (hday : ¬ IsDay term) :
    parse term = .text (trimmed term) := by
  rw [parse_of_not_blank hblank, ofDotted?_eq_none_iff.2 hday]
  rfl

/-! ### What it selects -/

variable {row : Task}

theorem selects_of_blank (h : IsBlankText term.toList) : (parse term).selects row = true := by
  rw [parse_of_blank h]
  rfl

/-- A day selects the rows of which the date is that day. -/
theorem selects_of_day (hyear : d.HasFourDigitYear) (h : trim term.toList = d.dotted) :
    (parse term).selects row = true ↔ Date.ofCompact? row.date = some d := by
  rw [parse_of_day hyear h, Date.ofCompact?_eq_some_iff]
  show (row.date == d.compact) = true ↔ _
  rw [beq_iff_eq]
  exact (and_iff_right hyear).symm

theorem selects_of_text (hblank : ¬ IsBlankText term.toList) (hday : ¬ IsDay term) :
    (parse term).selects row = true ↔
      Like.fits (Like.containing (trim term.toList)) row.title.toList = true ∨
        Like.fits (Like.containing (trim term.toList)) row.comment.toList = true := by
  rw [parse_of_text hblank hday, selects, Bool.or_eq_true, trimmed, String.toList_ofList]

end Search

/-! ### The order of listings -/

namespace Table

/-- One row is listed before another one: by the bytes of the date, then by number. -/
def ListedBefore (a b : Task) : Prop := bytes a.date < bytes b.date ∨ a.date = b.date ∧ a.id < b.id

/-- A listing: the rows in order, each of them once, and those that have a date in the order of time. -/
structure IsListing (rows : List Task) : Prop where
  ordered : rows.Pairwise ListedBefore
  nodup : rows.Nodup
  chronological : rows.Pairwise fun a b =>
    ∀ d e, Date.ofCompact? a.date = some d → Date.ofCompact? b.date = some e → d ≤ e

theorem precedes_iff {a b : Task} :
    precedes a b = true ↔ a.date < b.date ∨ a.date = b.date ∧ a.id ≤ b.id := by
  rw [precedes, Bool.or_eq_true, Bool.and_eq_true, decide_eq_true_eq, beq_iff_eq, decide_eq_true_eq]

theorem precedes_trans (a b c : Task) (hab : precedes a b = true) (hbc : precedes b c = true) :
    precedes a c = true := by
  rw [precedes_iff] at hab hbc ⊢
  rcases hab with hab | ⟨hab, hle⟩
  · rcases hbc with hbc | ⟨hbc, -⟩
    · exact .inl (hab.trans hbc)
    · exact .inl (hbc ▸ hab)
  · rw [hab]
    exact hbc.imp_right fun hbc => ⟨hbc.1, hle.trans hbc.2⟩

theorem precedes_total (a b : Task) : (precedes a b || precedes b a) = true := by
  rw [Bool.or_eq_true, precedes_iff, precedes_iff]
  rcases lt_trichotomy a.date b.date with hlt | heq | hgt
  · exact .inl (.inl hlt)
  · exact (le_total a.id b.id).imp (fun h => .inr ⟨heq, h⟩) (fun h => .inr ⟨heq.symm, h⟩)
  · exact .inr (.inl hgt)

theorem mem_ordered {t : Table} {row : Task} : row ∈ t.ordered ↔ row ∈ t.rows :=
  (List.mergeSort_perm t.rows precedes).mem_iff

/-- The rows of a table are listed one strictly after the other, since their numbers are different. -/
theorem pairwise_ordered (t : Table) : t.ordered.Pairwise ListedBefore := by
  have hsorted : t.ordered.Pairwise fun a b => precedes a b = true :=
    List.pairwise_mergeSort precedes_trans precedes_total t.rows
  have hids : (t.ordered.map Task.id).Nodup :=
    ((List.mergeSort_perm t.rows precedes).map Task.id).nodup_iff.2 t.ids_distinct
  refine (hsorted.and (List.pairwise_map.1 hids)).imp fun {a b} h => ?_
  obtain ⟨hle, hne⟩ := h
  rcases precedes_iff.1 hle with hlt | ⟨hdate, hid⟩
  · exact .inl (lt_iff_bytes_lt.1 hlt)
  · exact .inr ⟨hdate, lt_of_le_of_ne hid hne⟩

theorem ListedBefore.ne {a b : Task} (h : ListedBefore a b) : a ≠ b := by
  rintro rfl
  rcases h with hlt | ⟨-, hlt⟩
  · exact List.lt_irrefl _ hlt
  · exact lt_irrefl _ hlt

/-- Rows with dates are listed in the order of time. -/
theorem ListedBefore.date_le {a b : Task} (h : ListedBefore a b) (d e : Date)
    (hd : Date.ofCompact? a.date = some d) (he : Date.ofCompact? b.date = some e) : d ≤ e := by
  obtain ⟨hdYear, ha⟩ := Date.ofCompact?_eq_some_iff.1 hd
  obtain ⟨heYear, hb⟩ := Date.ofCompact?_eq_some_iff.1 he
  rcases h with hlt | ⟨hsame, -⟩
  · rw [← lt_iff_bytes_lt, ha, hb, Date.compact_lt_compact_iff hdYear heYear] at hlt
    exact hlt.le
  · rw [hsame, he, Option.some.injEq] at hd
    exact hd.ge

theorem isListing_of_pairwise {rows : List Task} (h : rows.Pairwise ListedBefore) : IsListing rows where
  ordered := h
  nodup := h.imp ListedBefore.ne
  chronological := h.imp ListedBefore.date_le

/-! ### What a search finds -/

/-- The rows of a table that match a term, and no others. -/
structure Matches (t : Table) (term : String) (found : List Task) : Prop where
  mem_rows : ∀ row ∈ found, row ∈ t.rows
  /-- Blanks match every row. -/
  blank : IsBlankText term.toList → ∀ row ∈ t.rows, row ∈ found
  /-- A day matches the rows of which the date is that day. -/
  day : ∀ d : Date, d.HasFourDigitYear → trim term.toList = d.dotted →
    ∀ row ∈ t.rows, (row ∈ found ↔ Date.ofCompact? row.date = some d)
  /-- Any other term matches the rows whose title or comment contains it. -/
  text : ¬ IsBlankText term.toList → ¬ Search.IsDay term → IsPlain term.toList →
    ∀ row ∈ t.rows, IsPlain row.title.toList → IsPlain row.comment.toList →
      (row ∈ found ↔ OccursIn (trim term.toList) row.title.toList ∨
        OccursIn (trim term.toList) row.comment.toList)
  /-- The same for all texts without NUL characters, as they are read. -/
  textAsRead : ¬ IsBlankText term.toList → ¬ Search.IsDay term → IsNulFree term.toList →
    ∀ row ∈ t.rows, IsNulFree row.title.toList → IsNulFree row.comment.toList →
      (row ∈ found ↔ OccursIn ((trim term.toList).map Like.asRead) (row.title.toList.map Like.asRead) ∨
        OccursIn ((trim term.toList).map Like.asRead) (row.comment.toList.map Like.asRead))

variable {t : Table} {term : String}

theorem mem_filter_ordered {p : Task → Bool} {row : Task} (h : row ∈ t.rows) :
    row ∈ t.ordered.filter p ↔ p row = true := by
  rw [List.mem_filter, mem_ordered]
  exact and_iff_right h

/-- The rows that a parsed term selects are those that match it. -/
theorem matches_filter (t : Table) (term : String) :
    t.Matches term (t.ordered.filter (Search.parse term).selects) where
  mem_rows row hrow := mem_ordered.1 (List.mem_filter.1 hrow).1
  blank h row hrow := (mem_filter_ordered hrow).2 (Search.selects_of_blank h)
  day d hyear h row hrow := (mem_filter_ordered hrow).trans (Search.selects_of_day hyear h)
  text hblank hday hterm row hrow htitle hcomment := by
    have htrim : IsPlain (trim term.toList) := fun c hc => hterm c (mem_of_mem_trim hc)
    rw [mem_filter_ordered hrow, Search.selects_of_text hblank hday,
      Like.fits_containing_of_isPlain htrim htitle, Like.fits_containing_of_isPlain htrim hcomment]
  textAsRead hblank hday hterm row hrow htitle hcomment := by
    have htrim : IsNulFree (trim term.toList) := fun c hc => hterm c (mem_of_mem_trim hc)
    rw [mem_filter_ordered hrow, Search.selects_of_text hblank hday, Like.fits_containing htrim htitle,
      Like.fits_containing htrim hcomment]

theorem search_eq_ok (h : (Search.parse term).isTooLong = false) (limit : Nat) :
    t.search term limit = .ok ((t.ordered.filter (Search.parse term).selects).take limit) := by
  rw [search, h, if_neg (by simp)]
  rfl

theorem search_blank (h : IsBlankText term.toList) (limit : Nat) :
    t.search term limit = .ok (t.list limit) := by
  rw [search_eq_ok (by rw [Search.parse_of_blank h]; rfl), list, List.filter_eq_self.2]
  intro row _
  exact Search.selects_of_blank h

/-- **Listings and searches lose, invent and reorder nothing.**  A search for a term that is not too long gives
the beginning of one list, which has every row that matches the term and no other, in the order of listings.
A shorter listing is the beginning of a longer one, and a search for blanks is a listing. -/
theorem search_lists_matches (t : Table) :
    (∀ term, (Search.parse term).isTooLong = false →
      ∃ found, t.Matches term found ∧ IsListing found ∧ ∀ limit, t.search term limit = .ok (found.take limit)) ∧
    (∀ n m, n ≤ m → t.list n <+: t.list m) ∧
    ∀ term, IsBlankText term.toList → ∀ limit, t.search term limit = .ok (t.list limit) := by
  refine ⟨?_, ?_, ?_⟩
  · intro term h
    exact ⟨_, t.matches_filter term, isListing_of_pairwise (t.pairwise_ordered.filter _), search_eq_ok h⟩
  · intro n m hle
    exact List.take_prefix_take_left hle
  · intro term h limit
    exact search_blank h limit

/-- Three rows, one of them with a date that is none: a text with characters that have a meaning in patterns,
a day, and blanks. -/
theorem search_lists_matches_percent :
    let gym : Task := ⟨9, "20250312", "GYM 50% off", "", "w 3"⟩
    let bike : Task := ⟨7, "someday", "Bike", "gym 50 km", ""⟩
    let rent : Task := ⟨4, "20250310", "Rent", "flat", ""⟩
    let t : Table := ⟨[gym, bike, rent], 9, by decide, by decide, by decide⟩
    (∃ found, IsListing found ∧ (∀ limit, t.search " gym 50% " limit = .ok (found.take limit)) ∧
        gym ∈ found ∧ bike ∉ found ∧ rent ∉ found) ∧
      (∃ found, IsListing found ∧ (∀ limit, t.search "10.03.2025" limit = .ok (found.take limit)) ∧
        rent ∈ found ∧ gym ∉ found ∧ bike ∉ found) ∧
      t.list 1 <+: t.list 2 ∧ t.search " " 2 = .ok (t.list 2) := by
  intro gym bike rent t
  obtain ⟨hsearch, hlist, hblank⟩ := search_lists_matches t
  refine ⟨?_, ?_, hlist 1 2 (by decide), hblank " " (by decide) 2⟩
  · obtain ⟨found, hmatches, hlisting, hfound⟩ := hsearch " gym 50% " (by decide)
    have hrow := hmatches.text (by decide) (Search.ofDotted?_eq_none_iff.1 (by decide)) (by decide)
    refine ⟨found, hlisting, hfound, ?_, ?_, ?_⟩
    · exact (hrow gym (by decide) (by decide) (by decide)).2 (by decide)
    · exact mt (hrow bike (by decide) (by decide) (by decide)).1 (by decide)
    · exact mt (hrow rent (by decide) (by decide) (by decide)).1 (by decide)
  · obtain ⟨found, hmatches, hlisting, hfound⟩ := hsearch "10.03.2025" (by decide)
    let day : Date := (Date.of? 2025 3 10).get (by decide)
    have hrow := hmatches.day day (by decide) (by decide)
    refine ⟨found, hlisting, hfound, ?_, ?_, ?_⟩
    · exact (hrow rent (by decide)).2 (by decide)
    · exact mt (hrow gym (by decide)).1 (by decide)
    · exact mt (hrow bike (by decide)).1 (by decide)

end Table

end Agenda
