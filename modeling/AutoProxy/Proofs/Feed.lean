import AutoProxy.Proofs.Base64
import AutoProxy.Proofs.Feed.Download
import AutoProxy.RuleSet.Collection

/-! The lines of a list do not depend on how it is gotten. -/
namespace AutoProxy.Feed

open Run

/-- The runs that get a list of which the bytes are in a file, or are the body of a response that
reports no error, declares no length and keeps the limit. -/
inductive Delivers (s : Scene) (bytes : Bytes) : Run Text → Prop where
  | file {path : Text} (hread : s.files.read path = .ok bytes) : Delivers s bytes (ofFile path)
  | body {url : Text} {proxy : Option Text} {timeout : Seconds} {limit : Int} {ownTransport : Bool}
      {r : Response} (hanswer : Answers s (clientFor proxy timeout ownTransport) url r)
      (hstatus : r.status < 400)
      (hlength : r.header? "Content-Length".toList = none) (hcarries : r.Carries bytes)
      (hlimit : (bytes.length : Int) ≤ limit) :
      Delivers s bytes (download url proxy timeout limit ownTransport)

/-- The text is plain and has the lines of `list`, or it encodes `list`. -/
def Bears (t list : Text) : Prop :=
  (Base64.looksEncoded t = false ∧ Text.lines t = Text.lines list) ∨ Base64.Encodes t list

variable {s : Scene} {r : Response} {bytes : Bytes} {t list url path note : Text} {limit : Int}

theorem Bears.unifyLineEnds (h : Bears t list) : Bears (Text.unifyLineEnds t) list := by
  rcases h with ⟨hplain, hlines⟩ | hencodes
  · left
    rw [Base64.looksEncoded_unifyLineEnds, Text.lines_unifyLineEnds]
    exact ⟨hplain, hlines⟩
  · right
    exact hencodes.unifyLineEnds

/-- The text that is got has the lines of `list`, whatever scene is left. -/
def HasLines (list text : Text) (_ : Scene) : Prop := Text.lines text = Text.lines list

theorem decoded_of_bears (h : Bears t list) (hlist : list ≠ []) :
    ∃ text, decoded t = .ok text ∧ Text.lines text = Text.lines list := by
  rcases h with ⟨hplain, hlines⟩ | hencodes
  · exact ⟨t, by rw [decoded, hplain]; rfl, hlines⟩
  · refine ⟨list, ?_, rfl⟩
    rw [decoded, if_pos (Base64.looksEncoded_of_encodes hencodes hlist),
      Base64.decodeText_of_encodes hencodes]
    rfl

theorem run_readText {role : Reading.Role} (hread : s.files.read path = .ok (Utf8.encode t)) :
    (readText role path).run.run s = (.ok (Text.unifyLineEnds t), s) := by
  refine (run_bind_of_ok run_get).trans ?_
  refine (run_bind_of_ok (run_liftFault_of_ok hread)).trans ?_
  exact run_bind_of_ok (run_liftFault_of_ok (Utf8.decode_encode t))

theorem run_ofFile_eq_decoded (hread : s.files.read path = .ok (Utf8.encode t)) :
    ∃ s', (ofFile path).run.run s = (decoded (Text.unifyLineEnds t), s') := by
  have hrest : (ofFile path).run.run s = _ :=
    (run_bind_of_ok run_log).trans (run_bind_of_ok (run_readText hread))
  exact ⟨_, hrest.trans run_decodeIfEncoded⟩

/-- A file gives the text that it holds, or what this text encodes if it looks encoded. -/
theorem run_ofFile (hread : s.files.read path = .ok (Utf8.encode t)) :
    ∃ s', (ofFile path).run.run s =
      (if Base64.looksEncoded t then (Base64.decodeText t).mapError .decoding
        else .ok (Text.unifyLineEnds t), s') := by
  rw [← Base64.looksEncoded_unifyLineEnds, ← Base64.decodeText_unifyLineEnds]
  exact run_ofFile_eq_decoded hread

theorem ends_ofFile (hread : s.files.read path = .ok (Utf8.encode t)) (h : Bears t list)
    (hlist : list ≠ []) : Ends (ofFile path) s (HasLines list) := by
  obtain ⟨text, htext, hlines⟩ := decoded_of_bears h.unifyLineEnds hlist
  obtain ⟨s', hrun⟩ := run_ofFile_eq_decoded hread
  exact ⟨text, s', hrun.trans (by rw [htext]), hlines⟩

theorem ends_download {proxy : Option Text} {timeout : Seconds} {ownTransport : Bool}
    (hanswer : Answers s (clientFor proxy timeout ownTransport) url r) (hstatus : r.status < 400)
    (hlength : r.header? "Content-Length".toList = none) (hcarries : r.Carries (Utf8.encode t))
    (hlimit : ((Utf8.encode t).length : Int) ≤ limit) (h : Bears t list) (hlist : list ≠ []) :
    Ends (download url proxy timeout limit ownTransport) s (HasLines list) := by
  obtain ⟨text, htext, hlines⟩ := decoded_of_bears h hlist
  obtain ⟨s', hrun, -⟩ := run_download_of_answers proxy timeout ownTransport
    hanswer hstatus hlength (by omega : 0 ≤ limit)
  have hbody : r.body = ⟨Utf8.encode t, none⟩ := Network.ofChunks_of_carries hcarries
  have houtcome : (outcome url limit r.body).1 = .ok text := by
    rw [outcome, hbody, if_neg (Int.not_lt.mpr hlimit), ← htext, Utf8.decodeLossy_encode]
  exact ⟨text, s', hrun.trans (by rw [houtcome]), hlines⟩

/-- A list and any encoding of it, in files and as bodies, all are got, with the same lines and so
with the same rules and the same account. -/
theorem lines_of_delivers {list encoded : Text} {get : Run Text} (hlist : list ≠ [])
    (hplain : Base64.looksEncoded list = false) (hencoded : Base64.Encodes encoded list)
    (ht : t = list ∨ t = encoded) (hget : Delivers s (Utf8.encode t) get) :
    ∃ text s', get.run.run s = (.ok text, s') ∧ Text.lines text = Text.lines list ∧
      ∀ tally user, Collection.ofLists tally (Text.lines text) user =
        Collection.ofLists tally (Text.lines list) user := by
  have hbears : Bears t list := by
    rcases ht with rfl | rfl
    · exact .inl ⟨hplain, rfl⟩
    · exact .inr hencoded
  have hends : Ends get s (HasLines list) := by
    cases hget with
    | file hread => exact ends_ofFile hread hbears hlist
    | body hanswer hstatus hlength hcarries hlimit =>
      exact ends_download hanswer hstatus hlength hcarries hlimit hbears hlist
  obtain ⟨text, s', hrun, hlines⟩ := hends
  refine ⟨text, s', hrun, hlines, fun tally user => ?_⟩
  rw [hlines]

theorem lines_of_delivers_mixed_line_ends :
    let list := "||a.b\r!é\r\nc.d\n".toList
    let encoded := "fHxh LmIN\nIcOp\tDQpj\r\nLmQK".toList
    let bytes := Utf8.encode list
    let r : Response := ⟨200, [], [.data (bytes.take 8), .data [], .data (bytes.drop 8)]⟩
    let s : Scene :=
      ⟨⟨2024, 1, 1, 0, 0, 0, 0, none⟩, ⟨[], [(["list".toList], .file (Utf8.encode encoded))]⟩,
        [.response r], [], [], [], .scripted⟩
    let fromFile := ofFile "/list".toList
    let fromWeb := download "http://a.b/list".toList none ⟨30, 0⟩ 100 false
    (list ≠ [] ∧ Base64.looksEncoded list = false ∧ Base64.Encodes encoded list ∧
        Delivers s (Utf8.encode encoded) fromFile ∧ Delivers s (Utf8.encode list) fromWeb) ∧
      (∃ text s', fromFile.run.run s = (.ok text, s') ∧
        Text.lines text = ["||a.b".toList, "!é".toList, "c.d".toList]) ∧
      ∃ text s', fromWeb.run.run s = (.ok text, s') ∧
        Text.lines text = ["||a.b".toList, "!é".toList, "c.d".toList] := by
  intro list encoded bytes r s fromFile fromWeb
  have hlist : list ≠ [] := by decide
  have hplain : Base64.looksEncoded list = false := by decide
  have hencoded : Base64.Encodes encoded list := by
    unfold Base64.Encodes
    decide
  have hfile : Delivers s (Utf8.encode encoded) fromFile := .file (by decide)
  have hweb : Delivers s (Utf8.encode list) fromWeb := by
    have hanswer : Answers s (clientFor none ⟨30, 0⟩ false) "http://a.b/list".toList r :=
      ⟨by decide, rfl, rfl⟩
    have hcarries : r.Carries (Utf8.encode list) :=
      Response.carries_of_pieces [bytes.take 8, [], bytes.drop 8] rfl rfl
    exact .body hanswer (by decide) rfl hcarries (by decide)
  have hlines : Text.lines list = ["||a.b".toList, "!é".toList, "c.d".toList] := by decide
  obtain ⟨text, s₁, hrun, htext, -⟩ := lines_of_delivers hlist hplain hencoded (.inr rfl) hfile
  obtain ⟨text', s₂, hrun', htext', -⟩ := lines_of_delivers hlist hplain hencoded (.inl rfl) hweb
  exact ⟨⟨hlist, hplain, hencoded, hfile, hweb⟩, ⟨text, s₁, hrun, htext.trans hlines⟩,
    ⟨text', s₂, hrun', htext'.trans hlines⟩⟩

end AutoProxy.Feed
