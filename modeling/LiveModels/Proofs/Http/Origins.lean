import LiveModels.Http.Router
import LiveModels.Proofs.Result
import LiveModels.Settings.Basic

/-!
# Origins that are allowed

Which origins the service allows when it runs with the settings that variables give. Entries that
cannot be the value of a header are left out before it is asked whether there are any. So the
entries of the list are the only origins that are allowed as long as one of them can be such a
value; a list of which all entries are left out allows every origin, as an empty list does.
-/

namespace LiveModels

namespace Settings

variable {value? : String → Option String} {text : String}

/-! ### Settings of which one is left out -/

/-- Variables of which one is not set. -/
def unset (key : String) (value? : String → Option String) (name : String) : Option String :=
  if name = key then none else value? name

theorem unset_of_ne {key name : String} (h : name ≠ key) :
  unset key value? name = value? name
  := if_neg h

theorem parsed_unset {α : Type} {key name : String} (h : name ≠ key) (default : α)
    (parse : String → Except String α) :
  parsed (unset key value?) name default parse = parsed value? name default parse
  := by
  rw [parsed, parsed, unset_of_ne h]

/-- Every list of origins is read, whatever stands in it. -/
theorem ofVariables_eq_ok (hset : value? "ALLOWED_ORIGINS" = some text) {s : Settings}
    (h : ofVariables (unset "ALLOWED_ORIGINS" value?) = .ok s) :
  ofVariables value? = .ok { s with allowedOrigins := parseOrigins text }
  := by
  have hdirectory : "MODELS_DIR" ≠ "ALLOWED_ORIGINS" := by decide
  have hfile : "SCHEMA_FILE" ≠ "ALLOWED_ORIGINS" := by decide
  have hname : "MODELS_MODULE_NAME" ≠ "ALLOWED_ORIGINS" := by decide
  obtain ⟨host, hhost, h⟩ := Result.bind_eq_ok_iff.mp h
  obtain ⟨port, hport, h⟩ := Result.bind_eq_ok_iff.mp h
  obtain ⟨naming, hnaming, h⟩ := Result.bind_eq_ok_iff.mp h
  obtain ⟨timeout, htimeout, h⟩ := Result.bind_eq_ok_iff.mp h
  obtain ⟨flag, hflag, h⟩ := Result.bind_eq_ok_iff.mp h
  obtain ⟨watch, hwatch, h⟩ := Result.bind_eq_ok_iff.mp h
  rw [parsed_unset (by decide)] at hhost hport hnaming htimeout hflag hwatch
  rw [unset_of_ne hdirectory, unset_of_ne hfile, unset_of_ne hname] at h
  cases h
  simp only [ofVariables, hhost, hport, hnaming, htimeout, hflag, hwatch, hset, Result.ok_bind,
    Result.pure_eq]

/-- Whether an origin is an entry of a list, without the white space around it. Blank entries count
for nothing. -/
def Lists (text origin : String) : Prop :=
  origin ≠ "" ∧ ∃ entry ∈ Text.pieces ',' text.toList, origin = String.ofList (Text.trim entry)

theorem mem_parseOrigins {origin : String} :
  origin ∈ parseOrigins text ↔ Lists text origin
  := by
  rw [parseOrigins, List.mem_filter, List.mem_map, Bool.not_eq_true', Lists, and_comm]
  constructor
  · rintro ⟨hne, entry, hentry, rfl⟩
    exact ⟨by simpa using hne, entry, hentry, rfl⟩
  · rintro ⟨hne, entry, hentry, rfl⟩
    exact ⟨by simpa using hne, entry, hentry, rfl⟩

end Settings

namespace Http

/-- A form of the body does not change the headers. -/
theorem Response.headers_encodedFor (response : Response) (r : Request) :
  (response.encodedFor r).headers = response.headers
  := by
  unfold Response.encodedFor
  split
  · split <;> rfl
  · rfl

namespace OriginPolicy

variable {p : OriginPolicy} {origins : List String} {r : Request} {v : String}

/-- Whatever is requested, the header of the answer is what the policy allows. -/
theorem mem_headers_handle_iff (s : Service) (key : String) :
  ("access-control-allow-origin", v) ∈ (handle p s key r).2.headers ↔
    p.allowed? (r.header? "origin") = some v
  := by
  have hheader : ("access-control-allow-origin", v) ∈ p.responseHeaders r ↔
      p.allowed? (r.header? "origin") = some v := by
    simp [responseHeaders]
  unfold handle
  split
  · rw [preflightHeaders, List.mem_append, hheader]
    simp
  · rw [Response.headers_encodedFor, hheader]

theorem ofOrigins_of_mem {o : String} (ho : o ∈ origins) (hvalid : isHeaderValue o = true)
    (hstar : "*" ∉ origins) :
  ofOrigins origins = some (.listed (origins.filter isHeaderValue))
  := by
  have hmem : o ∈ origins.filter isHeaderValue := List.mem_filter.mpr ⟨ho, hvalid⟩
  have hnone : ¬ (origins.filter isHeaderValue).contains "*" = true := by
    rw [List.contains_iff_mem]
    intro h
    apply hstar (List.mem_filter.mp h).1
  unfold ofOrigins
  split
  case h_1 hnil =>
    rw [hnil] at hmem
    cases hmem
  case h_2 => rw [if_neg hnone]

/-- If no entry can be the value of a header, every origin is allowed. -/
theorem ofOrigins_of_forall (h : ∀ o ∈ origins, isHeaderValue o = false) :
  ofOrigins origins = some .any
  := by
  have hnil : origins.filter isHeaderValue = [] := by
    rw [List.filter_eq_nil_iff]
    intro o ho
    rw [h o ho]
    decide
  rw [ofOrigins, hnil]

/-- Of the origins of requests, a list allows those that it has. -/
theorem allowed?_listed_iff {origin : Option String} :
  (listed origins).allowed? origin = some v ↔ origin = some v ∧ v ∈ origins
  := by
  rw [allowed?, Option.filter_eq_some_iff, List.contains_iff_mem]

end OriginPolicy

end Http

open Http

/-- If the other variables give settings and no entry of the list of origins is an asterisk, then
the service has a policy. It allows the origins of the list that can be the value of a header, and
no others, if there is one; otherwise it allows every origin. -/
theorem Settings.allows_listed {value? : String → Option String} {text : String}
    (hothers : ∃ s, ofVariables (unset "ALLOWED_ORIGINS" value?) = .ok s)
    (hset : value? "ALLOWED_ORIGINS" = some text) (hstar : ¬ Lists text "*") :
  ∃ s policy, ofVariables value? = .ok s ∧
    OriginPolicy.ofOrigins s.allowedOrigins = some policy ∧
    ((∃ o, Lists text o ∧ OriginPolicy.isHeaderValue o = true) →
      ∀ service key r v,
        ("access-control-allow-origin", v) ∈ (handle policy service key r).2.headers ↔
          r.header? "origin" = some v ∧ Lists text v ∧ OriginPolicy.isHeaderValue v = true) ∧
    ((∀ o, Lists text o → OriginPolicy.isHeaderValue o = false) →
      ∀ service key r v,
        ("access-control-allow-origin", v) ∈ (handle policy service key r).2.headers ↔ v = "*")
  := by
  obtain ⟨base, hbase⟩ := hothers
  have hsettings := ofVariables_eq_ok hset hbase
  by_cases hvalid : ∃ o, Lists text o ∧ OriginPolicy.isHeaderValue o = true
  · obtain ⟨o, ho, hheader⟩ := hvalid
    refine ⟨_, _, hsettings, OriginPolicy.ofOrigins_of_mem (mem_parseOrigins.mpr ho) hheader
      (mt mem_parseOrigins.mp hstar), ?_, ?_⟩
    · intro _ service key r v
      rw [OriginPolicy.mem_headers_handle_iff, OriginPolicy.allowed?_listed_iff, List.mem_filter,
        mem_parseOrigins]
    · intro hnone
      rw [hnone o ho] at hheader
      cases hheader
  · have hnone : ∀ o ∈ parseOrigins text, OriginPolicy.isHeaderValue o = false := by
      intro o ho
      rw [← Bool.not_eq_true]
      intro hheader
      apply hvalid ⟨o, mem_parseOrigins.mp ho, hheader⟩
    refine ⟨_, _, hsettings, OriginPolicy.ofOrigins_of_forall hnone, ?_, ?_⟩
    · intro hsome
      exact absurd hsome hvalid
    · intro _ service key r v
      rw [OriginPolicy.mem_headers_handle_iff, OriginPolicy.allowed?, Option.some.injEq, eq_comm]

/-- With a line feed in place of the comma there is one entry, and every origin is allowed. -/
example :
  OriginPolicy.ofOrigins (Settings.parseOrigins "https://a.example\nhttps://b.example") =
    some .any
  := by
  decide +kernel

/-- Of two origins that are listed with white space around them, the second one is allowed, and an
origin that is not listed is not. -/
theorem Settings.second_allowed :
  let value? : String → Option String := fun name =>
    if name = "ALLOWED_ORIGINS" then some "https://a.example,, https://b.example\t" else none
  let request (origin : String) : Request := ⟨"GET", "/health", [("origin", origin)], ""⟩
  ∃ s policy, ofVariables value? = .ok s ∧
    OriginPolicy.ofOrigins s.allowedOrigins = some policy ∧
    ("access-control-allow-origin", "https://b.example") ∈
      (handle policy default "" (request "https://b.example")).2.headers ∧
    ∀ v, ("access-control-allow-origin", v) ∉
      (handle policy default "" (request "https://c.example")).2.headers
  := by
  intro value? request
  have hothers : ∃ s, ofVariables (unset "ALLOWED_ORIGINS" value?) = .ok s := ⟨_, rfl⟩
  have hmem : ∀ o, Lists "https://a.example,, https://b.example\t" o ↔
      o = "https://a.example" ∨ o = "https://b.example" := by
    intro o
    have hlist : parseOrigins "https://a.example,, https://b.example\t" =
        ["https://a.example", "https://b.example"] := by decide +kernel
    rw [← mem_parseOrigins, hlist, List.mem_pair]
  have hstar : ¬ Lists "https://a.example,, https://b.example\t" "*" := by
    rw [hmem]
    decide
  obtain ⟨s, policy, hs, hpolicy, hallowed, -⟩ := allows_listed hothers rfl hstar
  have hsecond : OriginPolicy.isHeaderValue "https://b.example" = true := by decide
  have hiff := hallowed ⟨_, (hmem _).mpr (.inr rfl), hsecond⟩
  refine ⟨s, policy, hs, hpolicy, ?_, ?_⟩
  · rw [hiff]
    exact ⟨rfl, (hmem _).mpr (.inr rfl), hsecond⟩
  · intro v
    rw [hiff]
    rintro ⟨horigin, hlisted, -⟩
    cases Option.some.inj horigin
    rw [hmem] at hlisted
    revert hlisted
    decide

end LiveModels
