import HttpScenario.Http.Client
import HttpScenario.Proofs.Sequence
/-!
# What keeps a request from being built

Checking a request goes through its method, its address and its headers.  Whatever is wrong with
any of them is of one class of errors (`Request.kind_of_build_eq_error`).  A client checks requests
once more, which changes nothing about those that have been built (`HttpClient.reply_of_build`).
-/

namespace HttpScenario

namespace OutboundRequest

theorem kind_of_checkMethod_eq_error {method : String} {error : Error}
    (h : checkMethod method = .error error) : error.kind = .build := by
  unfold checkMethod at h
  split at h
  · cases h
  · cases h
    rfl

theorem kind_of_schemeOf_eq_error {url : String} {error : Error}
    (h : schemeOf url = .error error) : error.kind = .build := by
  unfold schemeOf at h
  split at h
  · cases h
  · cases h
    rfl

theorem kind_of_checkHeader_eq_error {name value : String} {error : Error}
    (h : checkHeader name value = .error error) : error.kind = .build := by
  unfold checkHeader at h
  split at h
  · cases h
    rfl
  · split at h
    · cases h
      rfl
    · cases h

theorem kind_of_checkHeaders_eq_error {headers : Table String} {error : Error}
    (h : checkHeaders headers = .error error) : error.kind = .build := by
  induction headers with
  | nil => cases h
  | cons header rest ih =>
    obtain ⟨name, value⟩ := header
    unfold checkHeaders at h
    split at h
    · exact ih h
    · rename_i hheader
      cases h
      exact kind_of_checkHeader_eq_error hheader

theorem kind_of_validate_eq_error {request : OutboundRequest} {error : Error}
    (h : request.validate = .error error) : error.kind = .build := by
  unfold validate at h
  rcases bind_eq_error_iff.mp h with hmethod | ⟨-, -, h⟩
  · exact kind_of_checkMethod_eq_error hmethod
  · rcases bind_eq_error_iff.mp h with hscheme | ⟨scheme, -, hheaders⟩
    · exact kind_of_schemeOf_eq_error hscheme
    · exact kind_of_checkHeaders_eq_error hheaders

end OutboundRequest

/-- Whatever keeps a request from being built is an error of building it. -/
theorem Request.kind_of_build_eq_error {request : Request} {cache : Cache} {error : Error}
    (h : request.build cache = .error error) : error.kind = .build := by
  unfold Request.build at h
  rcases bind_eq_error_iff.mp h with hvalidate | ⟨-, -, hok⟩
  · exact OutboundRequest.kind_of_validate_eq_error hvalidate
  · cases hok

/-- A request that is built is the one that its template gives, and it can be sent. -/
theorem Request.build_eq_ok_iff {request : Request} {cache : Cache} {built : OutboundRequest} :
    request.build cache = .ok built ↔
      built = request.outbound cache ∧ (request.outbound cache).validate = .ok () := by
  unfold Request.build
  dsimp only
  rw [bind_eq_ok_iff]
  constructor
  · rintro ⟨⟨⟩, hvalid, hok⟩
    exact ⟨(Except.ok.inj hok).symm, hvalid⟩
  · rintro ⟨rfl, hvalid⟩
    exact ⟨(), hvalid, rfl⟩

theorem Request.eq_outbound_of_build {request : Request} {cache : Cache} {built : OutboundRequest}
    (h : request.build cache = .ok built) : built = request.outbound cache :=
  (build_eq_ok_iff.mp h).1

/-- A request that is built meets the other side itself, whatever client sends it. -/
theorem HttpClient.reply_of_build {request : Request} {cache : Cache} {built : OutboundRequest}
    (h : request.build cache = .ok built) (client : HttpClient) :
    client.reply built = (client.transport.send built).1 := by
  obtain ⟨rfl, hvalid⟩ := Request.build_eq_ok_iff.mp h
  rw [reply, hvalid]

end HttpScenario
