-- The texts that documents are served as. A body in UTF-8 that comes without the name of a
-- character set is read back as the text it was made from, also behind replies that failed for a
-- while, as long as there are pauses between them.
import CorpusSearch.Net.Client
import CorpusSearch.Proofs.Match.AnyOrder
import CorpusSearch.Proofs.Net.Course
import CorpusSearch.Proofs.Text.EitherCase
import CorpusSearch.Proofs.Text.Utf8

namespace CorpusSearch.Match

open Corpus

/-! ## Records and the texts behind them -/

/-- A record is in the result of a search, the full-text one or the simple one. -/
inductive Finds (fetch : Fetcher) (record : Record) : Prop
  | fullText {plan : Plan} {query : Query.Compiled} {order : Nat → List Nat}
      {documents : List Document} (horder : ∀ count, (order count).Perm (List.range count))
      (h : record ∈ (plan.matchInOrder fetch query order documents).value.1)
  | simple {cap : Int} {query : Text} {documents : List Document}
      (h : record ∈ (simpleMatch cap fetch query documents).value.1)

variable {fetch : Fetcher} {document : Document} {record : Record}

theorem exists_text_of_recordOf? {plan : Plan} {query : Query.Compiled}
    (h : plan.recordOf? fetch query document = some record) :
    ∃ text, fetch record.url = .ok text ∧ record.size = text.byteSize ∧
      record.hash = contentHash text := by
  unfold Plan.recordOf? text? at h
  cases hfetch : fetch document.url with
  | error failure => simp [hfetch, Except.toOption] at h
  | ok text =>
    simp only [hfetch, Except.toOption, Option.bind_eq_bind, Option.bind_some] at h
    split at h
    · obtain ⟨snippets, -, hrecord⟩ := Option.bind_eq_some_iff.mp h
      cases hrecord
      exact ⟨text, hfetch, congrArg Nat.cast text.length_utf8, rfl⟩
    · cases h

theorem exists_text_of_simpleProcess {terms : List Text}
    (h : (simpleProcess fetch terms document).value.record? = some record) :
    ∃ text, fetch record.url = .ok text ∧ record.size = text.byteSize ∧
      record.hash = contentHash text := by
  rw [value_simpleProcess] at h
  cases hfetch : fetch document.url with
  | error failure =>
    rw [hfetch] at h
    cases h
  | ok text =>
    rw [hfetch] at h
    change simpleRecord? terms document text = some record at h
    unfold simpleRecord? at h
    dsimp only at h
    split at h
    · cases h
      exact ⟨text, hfetch, rfl, rfl⟩
    · cases h

/-- The size and the hash of a record are those of the text that its address gives. -/
theorem Finds.exists_text (h : Finds fetch record) :
    ∃ text, fetch record.url = .ok text ∧ record.size = text.byteSize ∧
      record.hash = contentHash text := by
  cases h with
  | @fullText plan query order documents horder h =>
    rw [value_matchInOrder plan fetch query horder, records_collect] at h
    obtain ⟨document, -, hrecord⟩ := List.mem_filterMap.mp h
    rw [record?_process] at hrecord
    exact exists_text_of_recordOf? hrecord
  | @simple cap query documents h =>
    by_cases hterms : splitTerms query = []
    · unfold simpleMatch at h
      simp only [hterms] at h
      cases h
    · rw [value_simpleMatch hterms, records_collect] at h
      obtain ⟨document, -, hrecord⟩ := List.mem_filterMap.mp h
      exact exists_text_of_simpleProcess hrecord

end CorpusSearch.Match

namespace CorpusSearch.Net

open Corpus

/-! ## Bodies -/

/-- No content type is given, or one without the word for a character set in letters of either
case. -/
def GivesNoCharset (response : Response) : Prop :=
  ∀ contentType, response.header? "content-type" = some contentType →
    ∀ part, part <:+: contentType → part.map Char.toLower ≠ "charset".toList

variable {response : Response} {text : Text}

theorem occursIn_charset_iff (contentType : Text) :
    Text.occursIn "charset" contentType.lower = true ↔
      ∃ part, part <:+: contentType ∧ part.map Char.toLower = "charset".toList := by
  rw [Text.occursIn_iff]
  exact Text.isInfix_lower_iff (List.all_eq_true.mp (by decide))

theorem givesNoCharset_iff : GivesNoCharset response ↔
    Text.occursIn "charset" ((response.header? "content-type").getD []).lower = false := by
  unfold GivesNoCharset
  rw [← Bool.not_eq_true, occursIn_charset_iff]
  cases response.header? "content-type" with
  | none => simp
  | some contentType => simp

theorem text_of_givesNoCharset (h : GivesNoCharset response) :
    response.text = .ok (Text.ofUtf8 response.body) := by
  unfold Response.text
  dsimp only
  rw [givesNoCharset_iff.mp h]
  split <;> rfl

/-! ## Texts that are fetched -/

/-- What a search gets of an address: the text, or what is said of the failure. -/
def Fetched.answer : Fetched Text → Except Text Text
  | .done text => .ok text
  | .failed failure => .error failure.message
  | .unreadable fault => .error fault.message

/-- A response without a status of failure ends a course and is its result. -/
theorem checked_of_success (url : Text) (h : ¬ (400 ≤ response.status ∧ response.status < 600)) :
    checked url (.ok response) = .ok response := by
  have hreports := reports_checked url (.ok response)
  generalize checked url (.ok response) = result at hreports
  cases hreports with
  | response => rfl
  | status hfailure => exact absurd hfailure h

theorem not_isTransient_of_success (h : ¬ (400 ≤ response.status ∧ response.status < 600)) :
    ¬ IsTransient (.ok response) := by
  intro htransient
  obtain ⟨failure, hchecked, -⟩ := (isTransient_iff []).mp htransient
  rw [checked_of_success [] h] at hchecked
  cases hchecked

/-- Where a text in UTF-8 is served without the name of a character set behind replies that failed
for a while, and the limit allows the request, the text is fetched as it is; so the size and the
hash of a record of it are those of the bytes that were served. This holds for up to 1024 replies
that fail. With more of them in front the text is lost: the pause behind reply 1025 is past every
floating-point number. -/
theorem fetchText_of_utf8 {configured : Int} {session : Nat → Reply} {number : Nat}
    {response : Response} {text : Text} (hlimit : number < attemptLimit configured)
    (hbefore : ∀ i < number, IsTransient (session i)) (hreply : session number = .ok response)
    (hstatus : ¬ (400 ≤ response.status ∧ response.status < 600))
    (hbody : response.body = text.utf8) (hcharset : GivesNoCharset response)
    (jitter : Nat → Double) (url : Text) :
    let fetched := (fetchText session jitter (attemptLimit configured) url).1
    (number ≤ 1024 → fetched = .done text ∧
      ∀ (fetch : Match.Fetcher) (record : Record), fetch url = fetched.answer → record.url = url →
        Match.Finds fetch record →
          record.size = response.body.length ∧ record.hash = Sha256.hash response.body) ∧
      (1024 < number → fetched = .failed ⟨.pauseOverflow, pauseTooLarge⟩) := by
  intro fetched
  constructor
  · intro hfits
    have hfetched : fetched = .done text := by
      obtain ⟨pauses, entries, -, hcourse⟩ := exists_get_eq jitter url hlimit hfits hbefore
        (Or.inl (hreply ▸ not_isTransient_of_success hstatus))
      unfold fetched fetchText
      rw [hcourse, hreply, checked_of_success url hstatus]
      unfold readBody
      dsimp only
      rw [text_of_givesNoCharset hcharset, hbody, Text.ofUtf8_utf8]
    refine ⟨hfetched, fun fetch record hfetch hurl hfinds => ?_⟩
    obtain ⟨found, hfound, hsize, hhash⟩ := hfinds.exists_text
    rw [hurl, hfetch, hfetched] at hfound
    cases hfound
    rw [hsize, hhash, hbody, Text.length_utf8]
    exact ⟨rfl, rfl⟩
  · intro hmany
    obtain ⟨pauses, entries, -, hcourse⟩ := exists_get_eq_overflow jitter url
      (show 1025 < attemptLimit configured by omega) fun i hi => hbefore i (by omega)
    unfold fetched fetchText
    rw [hcourse]
    rfl

/-- A text comes behind a busy server and a timeout, and a search finds it. -/
theorem fetchText_of_utf8_trusts :
    let text : Text := "§ 4 Trusts Law"
    let response : Response :=
      { status := 200, headers := [("Content-Type", "text/plain")], body := text.utf8 }
    let session : Nat → Reply := fun
      | 0 => .ok { status := 503 }
      | 1 => .error ⟨.readTimeout, "read timed out"⟩
      | _ => .ok response
    let fetched := (fetchText session (fun _ => .zero false) (attemptLimit 3) "u").1
    let found :=
      (Match.simpleMatch 1 (fun _ => fetched.answer) "law" [⟨.law, "Trusts Act", "u"⟩]).value.1
    2 < attemptLimit 3 ∧ (∀ i < 2, IsTransient (session i)) ∧ session 2 = .ok response ∧
      GivesNoCharset response ∧ fetched = .done text ∧ found ≠ [] ∧
      ∀ record ∈ found, record.size = 15 ∧ record.hash = Sha256.hash response.body := by
  intro text response session fetched found
  have hbefore : ∀ i < 2, IsTransient (session i) := by decide
  have hcharset : GivesNoCharset response := givesNoCharset_iff.mpr (by decide)
  have hsuccess : ¬ (400 ≤ response.status ∧ response.status < 600) := by decide
  have hlimit : 2 < attemptLimit 3 := by decide
  obtain ⟨htext, -⟩ := fetchText_of_utf8 hlimit hbefore rfl hsuccess rfl hcharset
    (fun _ => .zero false) "u"
  obtain ⟨hfetched, hrecords⟩ := htext (by decide)
  change fetched = .done text at hfetched
  have hfound : found = (Match.simpleMatch 1 (fun _ => .ok text) "law"
      [⟨.law, "Trusts Act", "u"⟩]).value.1 := by
    unfold found
    rw [hfetched]
    rfl
  have hurl : found ≠ [] ∧ ∀ record ∈ found, record.url = "u".toList := by
    rw [hfound]
    decide +kernel
  refine ⟨by decide, hbefore, rfl, hcharset, hfetched, hurl.1, fun record hrecord => ?_⟩
  obtain ⟨hsize, hhash⟩ := hrecords (fun _ => fetched.answer) record (Eq.refl fetched.answer)
    (hurl.2 record hrecord) (.simple hrecord)
  have hlength : response.body.length = 15 := by decide
  rw [hlength] at hsize
  exact ⟨hsize, hhash⟩

/-- Behind 1025 refusals the text is not fetched any more, though the limit allows one more request.
-/
theorem fetchText_lost_behind_1025 :
    let text : Text := "Trusts Law"
    let response : Response := { status := 200, body := text.utf8 }
    let session : Nat → Reply := fun number =>
      if number < 1025 then .error ⟨.connection, "refused"⟩ else .ok response
    let fetched := (fetchText session (fun _ => .zero false) (attemptLimit 1026) "u").1
    1025 < attemptLimit 1026 ∧ (∀ i < 1025, IsTransient (session i)) ∧
      session 1025 = .ok response ∧ GivesNoCharset response ∧
      fetched = .failed ⟨.pauseOverflow, pauseTooLarge⟩ ∧ fetched ≠ .done text := by
  intro text response session fetched
  have hbefore : ∀ i < 1025, IsTransient (session i) := by
    intro i hi
    unfold session
    rw [if_pos hi]
    decide
  have hfetched : fetched = .failed ⟨.pauseOverflow, pauseTooLarge⟩ := by
    obtain ⟨pauses, entries, -, hcourse⟩ := exists_get_eq_overflow (fun _ => .zero false) "u"
      (show 1025 < attemptLimit 1026 by decide) hbefore
    unfold fetched fetchText
    rw [hcourse]
    rfl
  refine ⟨by decide, hbefore, rfl, givesNoCharset_iff.mpr rfl, hfetched, ?_⟩
  rw [hfetched]
  rintro ⟨⟩

end CorpusSearch.Net
