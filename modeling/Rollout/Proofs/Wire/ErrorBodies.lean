import Rollout.Proofs.Json.Doubles
import Rollout.Proofs.Wire.RoundTrip
/-!
# Messages of error bodies

The message of an error body is read from its text whatever details come with it, as long as they do
not nest too deep: details may change in writing, if they are null or hold doubles that are read as
their neighbours, but they never get in the way of the message.
-/

namespace Rollout.Wire

open Json Decimal

/-- Details as a server may send them: nesting no deeper than an object around them allows, and
without numbers that have no text. -/
structure Tellable (v : Value) : Prop where
  within : v.Within 126
  finite : ∀ x ∈ v.doubles, x.isFinite = true

theorem ErrorBody.decode_encode_some (message : String) {v : Value} (h : Tellable v) :
    ∃ e : ErrorBody, decode (encode (⟨message, some v⟩ : ErrorBody)) = .ok e ∧
      e.message = message := by
  obtain ⟨n, w, hn, hkeep, -⟩ := h.within.spells_of_readable
    (fun x hx => readable_of_isFinite (h.finite x hx)) (Nat.lt_succ_self 126)
  have htext : Spells (ErrorBody.shape.chars (ErrorBody.toDatum ⟨message, some v⟩))
      (.object [(literal "message", .string (literal message)), (literal "details", n)] .closed) :=
    .object (.cons (.intro "message" (spells_string message)) (.cons (.intro "details" hn) .nil))
  obtain ⟨d, hd⟩ : ∃ d, (Shape.optional .any).ofNode 127 n = .ok d := by
    by_cases hnull : n = .null
    · exact ⟨.absent, ofNode_optional.mpr (.inl ⟨hnull, rfl⟩)⟩
    · exact ⟨.any w.sorted,
        ofNode_optional.mpr (.inr ⟨hnull, ofNode_any.mpr ⟨w, hkeep, rfl⟩⟩)⟩
  have hfields : ErrorBody.shape.ofNode depthLimit
      (.object [(literal "message", .string (literal message)), (literal "details", n)] .closed) =
        .ok (.record [.text message, d]) := by
    refine (ofNode_record_object (by decide)).mpr ⟨127, _, rfl, rfl, ?_, ?_⟩
    · refine List.forall_mem_cons.mpr ⟨⟨⟨_, text_literal _⟩, rfl⟩, ?_⟩
      exact List.forall_mem_singleton.mpr ⟨⟨_, text_literal _⟩, n.skipped_of_keep hkeep⟩
    · refine .cons ?_ (.cons ?_ .nil)
      · rw [valuesNamed_cons_self (text_literal _),
          valuesNamed_cons_of_ne (text_literal _) (by decide)]
        exact .found (ofNode_text.mpr ⟨_, message, rfl, text_literal message, rfl⟩)
      · rw [valuesNamed_cons_of_ne (text_literal _) (by decide),
          valuesNamed_cons_self (text_literal _)]
        exact .found hd
  have hdocument : Document.ofString
    (encode (⟨message, some v⟩ : ErrorBody)) = ⟨_, false⟩ :=
    Document.ofSymbols_of_text htext.documentText
  refine ⟨ErrorBody.ofDatum (.record [.text message, d]), ?_, rfl⟩
  rw [decode, hdocument]
  exact read_eq_ok.mpr ⟨_, hfields, rfl, rfl⟩

theorem ErrorBody.message_decode_encode (e : ErrorBody) (h : ∀ v ∈ e.details, Tellable v) :
    ∃ e' : ErrorBody, decode (encode e) = .ok e' ∧ e'.message = e.message := by
  obtain ⟨message, details⟩ := e
  cases details with
  | none => exact ⟨_, decode_encode ((ErrorBody.fits_iff _).mpr nofun) nofun, rfl⟩
  | some v => exact ErrorBody.decode_encode_some message (h v rfl)

end Rollout.Wire
