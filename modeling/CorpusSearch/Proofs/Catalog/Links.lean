-- The links of a catalog, resolved against the address of the site. What comes out is an address of
-- the web, or the link itself when it has another scheme than the site; resolving it again changes
-- nothing.
import CorpusSearch.Catalog.Entry
import CorpusSearch.Proofs.Text.EitherCase
import CorpusSearch.Proofs.Url.Schemes

namespace CorpusSearch.Catalog

open Url

/-! ## Addresses of the web -/

def webSchemes : List Text := ["http", "https"]

/-- What stands between a scheme and the host. -/
def hostMark : Text := "://"

/-- An address starts with a scheme of the web and two slashes, in letters of either case. -/
def IsWeb (url : Text) : Prop :=
  ∃ scheme ∈ webSchemes, ∃ start, start <+: url ∧ start.map Char.toLower = scheme ++ hostMark

variable {base link url scheme : Text}

theorem isFirm_of_webSchemes : ∀ scheme ∈ webSchemes, ∀ c ∈ scheme ++ hostMark,
    Text.isFirm c = true := by
  have hall : (webSchemes.all fun scheme => (scheme ++ hostMark).all Text.isFirm) = true := by
    decide
  simpa only [List.all_eq_true] using hall

theorem exists_mem_webSchemes {p : Text → Prop} :
    (∃ scheme ∈ webSchemes, p scheme) ↔ p "http" ∨ p "https" := by
  simp [webSchemes]

theorem isWebAddress_iff : isWebAddress url = true ↔ IsWeb url := by
  have hstarts : ∀ scheme ∈ webSchemes, (scheme ++ hostMark).isPrefixOf url.lower = true ↔
      ∃ start, start <+: url ∧ start.map Char.toLower = scheme ++ hostMark := by
    intro scheme hscheme
    rw [List.isPrefixOf_iff_prefix]
    exact Text.isPrefix_lowerFrom_iff (isFirm_of_webSchemes scheme hscheme) false
  unfold isWebAddress IsWeb
  rw [Bool.or_eq_true, exists_mem_webSchemes, ← hstarts _ (by decide), ← hstarts _ (by decide)]
  rfl

theorem known_of_mem_webSchemes : ∀ scheme ∈ webSchemes, scheme ≠ [] ∧
    hostSchemes.contains scheme = true ∧ relativeSchemes.contains scheme = true := by
  decide

/-- An address that is written with a scheme of the web and two slashes is one of the web. -/
theorem isWeb_of_isPrefix (hscheme : scheme ∈ webSchemes) (h : scheme ++ hostMark <+: url) :
    IsWeb url := by
  have hsmall : ∀ scheme ∈ webSchemes,
      (scheme ++ hostMark).map Char.toLower = scheme ++ hostMark := by decide
  exact ⟨scheme, hscheme, scheme ++ hostMark, h, hsmall scheme hscheme⟩

theorem of_toLower {c : Char} (h : Text.isFirm c.toLower = true) :
    32 < c.toNat ∧ (c.toLower.isAlpha = true → c.isAlpha = true ∧ isSchemeChar c = true) ∧
      (c.toLower.isAlpha = false → c.toLower = c) :=
  Text.of_lt_128 (p := fun c => Text.isFirm c.toLower = true → 32 < c.toNat ∧
    (c.toLower.isAlpha = true → c.isAlpha = true ∧ isSchemeChar c = true) ∧
      (c.toLower.isAlpha = false → c.toLower = c)) (by decide) (Text.lt_128_of_toLower h) h

theorem namesScheme_of_start {start : Text} (hscheme : scheme ∈ webSchemes)
    (hstart : start.map Char.toLower = scheme ++ hostMark) (h : start <+: url) :
    NamesScheme url scheme := by
  obtain ⟨rest, rfl⟩ := h
  obtain ⟨name, mark, rfl, hname, hmark⟩ := List.map_eq_append_iff.mp hstart
  have hfirm : ∀ c ∈ name ++ mark, Text.isFirm c.toLower = true := by
    intro c hc
    refine isFirm_of_webSchemes scheme hscheme _ ?_
    rw [← hstart]
    exact List.mem_map_of_mem hc
  have hletters : ∀ c ∈ name, c.isAlpha = true ∧ isSchemeChar c = true := by
    intro c hc
    have hall : (webSchemes.all fun scheme => scheme.all Char.isAlpha) = true := by decide
    simp only [List.all_eq_true] at hall
    refine (of_toLower (hfirm c (List.mem_append_left _ hc))).2.1 (hall scheme hscheme _ ?_)
    rw [← hname]
    exact List.mem_map_of_mem hc
  have hmark : mark = hostMark := by
    have hall : (hostMark.all fun c => !c.isAlpha) = true := by decide
    simp only [List.all_eq_true, Bool.not_eq_true'] at hall
    have hself : ∀ c ∈ mark, c.toLower = id c := by
      intro c hc
      refine (of_toLower (hfirm c (List.mem_append_right _ hc))).2.2 (hall _ ?_)
      rw [← hmark]
      exact List.mem_map_of_mem hc
    rw [← hmark, List.map_congr_left hself, List.map_id]
  obtain ⟨first, name, rfl⟩ : ∃ first rest, name = first :: rest := by
    refine List.exists_cons_of_ne_nil ?_
    rintro rfl
    rw [← hname] at hscheme
    exact absurd hscheme (by decide)
  obtain ⟨behind, hcleaned⟩ := exists_cleaned_append
    (List.append_ne_nil_of_left_ne_nil (List.cons_ne_nil _ _) mark)
    (fun c hc => (of_toLower (hfirm c hc)).1) rest
  refine ⟨first, name, '/' :: '/' :: behind, ?_, (hletters first List.mem_cons_self).1,
    fun c hc => (hletters c hc).2, hname.symm⟩
  rw [hcleaned, hmark, List.append_assoc]
  rfl

/-! ## The law -/

/-- The base with a slash at its end. -/
def rooted (base : Text) : Text := if base.getLast? = some '/' then base else base ++ ['/']

theorem isPrefix_rooted (base : Text) : base <+: rooted base := by
  unfold rooted
  split
  · exact List.prefix_refl base
  · exact List.prefix_append base _

/-- A link that is resolved against nothing or against an address of the web is resolved for good: a
second time changes nothing. In the latter case it is then an address of the web, with a scheme in
small letters unless it is the link or the base as it was, or it is the link with another scheme
than the base. -/
theorem resolve_resolved (hbase : base = [] ∨ IsWeb base) (h : resolve base link = .ok url) :
    resolve base url = .ok url ∧
      (base ≠ [] →
        IsWeb url ∧ (url = link ∨ link = [] ∧ url = rooted base ∨
          ∃ scheme ∈ webSchemes, NamesScheme base scheme ∧ scheme ++ hostMark <+: url) ∨
        url = link ∧ ∃ scheme baseScheme, NamesScheme link scheme ∧
          NamesScheme base baseScheme ∧ scheme ≠ baseScheme) := by
  have hweb : IsWeb url → resolve base url = .ok url := by
    intro hweb
    unfold resolve
    rw [isWebAddress_iff.mpr hweb]
    rfl
  by_cases hkept : (isWebAddress link || base.isEmpty) = true
  · unfold resolve at h
    rw [if_pos hkept] at h
    cases h
    rw [Bool.or_eq_true, isWebAddress_iff, List.isEmpty_iff] at hkept
    refine ⟨?_, fun hne => Or.inl ⟨hkept.resolve_right hne, Or.inl rfl⟩⟩
    rcases hkept with hlink | rfl
    · exact hweb hlink
    · unfold resolve
      rw [List.isEmpty_nil, Bool.or_true]
      rfl
  · have hjoin : join (rooted base) link = .ok url := by
      unfold resolve at h
      rwa [if_neg hkept] at h
    rw [Bool.or_eq_true, List.isEmpty_iff, not_or] at hkept
    obtain ⟨scheme, hscheme, start, hstart, hsmall⟩ := hbase.resolve_left hkept.2
    have hrooted := hstart.trans (isPrefix_rooted base)
    have hnames := namesScheme_of_start hscheme hsmall hstart
    obtain ⟨hne, hhost, hrelative⟩ := known_of_mem_webSchemes scheme hscheme
    have hrootedNe : rooted base ≠ [] := fun hnil =>
      hkept.2 (List.prefix_nil.mp (hnil ▸ isPrefix_rooted base))
    by_cases hempty : link = []
    · rw [hempty, join_nil hrootedNe] at hjoin
      cases hjoin
      have hbaseWeb : IsWeb (rooted base) := ⟨scheme, hscheme, start, hrooted, hsmall⟩
      exact ⟨hweb hbaseWeb, fun _ => Or.inl ⟨hbaseWeb, Or.inr (Or.inl ⟨hempty, rfl⟩)⟩⟩
    · obtain ⟨baseParts, parts, hread, hown, hcases⟩ := join_cases hrootedNe hempty hjoin
      have hbaseScheme : baseParts.scheme = scheme :=
        (scheme_of_read hread).trans ((namesScheme_of_start hscheme hsmall hrooted).scheme_eq [])
      have hown := scheme_of_read hown
      rw [hbaseScheme] at hcases hown
      rcases hcases with ⟨rfl, hother⟩ | ⟨written, hwritten, rfl⟩
      · have hother : parts.scheme ≠ scheme := by
          rintro heq
          rw [heq, hrelative] at hother
          simp at hother
        refine ⟨h, fun _ => Or.inr ⟨rfl, parts.scheme, scheme, ?_, hnames, hother⟩⟩
        rw [hown] at hother ⊢
        exact namesScheme_of_ne hother
      · have hprefix := @isPrefix_write written (hwritten ▸ hne) (hwritten ▸ hhost)
        rw [hwritten] at hprefix
        have hwrittenWeb : IsWeb written.write := isWeb_of_isPrefix hscheme hprefix
        exact ⟨hweb hwrittenWeb, fun _ => Or.inl ⟨hwrittenWeb,
          Or.inr (Or.inr ⟨scheme, hscheme, hnames, hprefix⟩)⟩⟩

/-- A link with dot segments leads to another folder of a site, whose address is in capitals. -/
theorem resolve_resolved_acts :
    let base : Text := "HTTP://example.test/site"
    let link : Text := "../acts/./a.txt?v=2"
    let url : Text := "http://example.test/acts/a.txt?v=2"
    IsWeb base ∧ resolve base link = .ok url ∧ resolve base url = .ok url ∧ IsWeb url ∧
      ∃ scheme ∈ webSchemes, NamesScheme base scheme ∧ scheme ++ hostMark <+: url := by
  intro base link url
  have hbase : IsWeb base := isWebAddress_iff.mp (by decide)
  have hurl : resolve base link = .ok url := by decide
  obtain ⟨hagain, hcases⟩ := resolve_resolved (Or.inr hbase) hurl
  rcases hcases (by decide) with ⟨hweb, hlink | hnothing | hsmall⟩ | ⟨hlink, -⟩
  · exact absurd hlink (by decide)
  · exact absurd hnothing.1 (by decide)
  · exact ⟨hbase, hurl, hagain, hweb, hsmall⟩
  · exact absurd hlink (by decide)

end CorpusSearch.Catalog
