import Lifeline.Proofs.Endpoint.Url

/-!
# What a url tells of its endpoint

A url is written from the scheme, the host, the port and the path, with `://`,
`:` and the first slash of the path between them.  The port holds no colon, so
the last colon before the path parts it from the host; but nothing keeps a slash
out of a host, and behind such a host the path seems to begin too early.  So a
url always tells the scheme, and it tells the rest where the slashes of the host
are counted (`eq_of_url_eq`).
-/

namespace Lifeline

/-- A text is split at a mark in one way only, if the marks before it are counted. -/
theorem append_cons_inj_of_count {mark : Char} {left right rest other : List Char}
    (hsame : left ++ mark :: rest = right ++ mark :: other)
    (hcount : left.count mark = right.count mark) : left = right ∧ rest = other := by
  rcases List.append_eq_append_iff.1 hsame with ⟨between, rfl, hrest⟩ | ⟨between, rfl, hrest⟩
  all_goals
    cases between with
    | nil => simpa [eq_comm] using hrest
    | cons first between =>
        obtain ⟨rfl, -⟩ := List.cons.inj hrest
        simp at hcount

namespace Endpoint

/-- An endpoint that was built from some host, port, security and path. -/
def Accepted (endpoint : Endpoint) : Prop :=
  ∃ host port secure path, of host port secure path = .ok endpoint

theorem Accepted.isProper {endpoint : Endpoint} (haccepted : endpoint.Accepted) :
    endpoint.IsProper := by
  obtain ⟨host, port, secure, path, hof⟩ := haccepted
  exact isProper_of_ok hof

/-- The parts of an accepted endpoint are accepted, as they are. -/
theorem Accepted.of_parts {endpoint : Endpoint} (haccepted : endpoint.Accepted) :
    of endpoint.host endpoint.port endpoint.secure endpoint.path = .ok endpoint := by
  obtain ⟨host, port, secure, path, hof⟩ := haccepted
  obtain ⟨hhost, hpath, rfl⟩ := of_eq_ok_iff.1 hof
  have hbarred : (slashed path).toList.any isBarred = false := by
    rw [List.any_eq_false] at hpath ⊢
    intro c hmember
    rcases mem_slashed hmember with rfl | hgiven
    · decide
    · exact hpath c hgiven
  exact of_eq_ok_iff.2 ⟨hhost, hbarred, by rw [slashed_eq_self (head?_slashed path)]⟩

/-! ## Digits and marks -/

theorem count_digits {mark : Char} (hmark : Decimal.isDigit mark = false) (n : Nat) :
    (Decimal.digits n).count mark = 0 := by
  refine List.count_eq_zero.2 fun hmember => ?_
  rw [Decimal.isDigit_of_mem_digits hmember] at hmark
  cases hmark

theorem digits_injective {n m : Nat} (hsame : Decimal.digits n = Decimal.digits m) : n = m := by
  rw [← Decimal.valueFrom_digits n, hsame, Decimal.valueFrom_digits]

theorem count_slash_site (endpoint : Endpoint) :
    endpoint.site.count '/' = endpoint.host.toList.count '/' := by
  rw [site, List.count_append, List.count_cons, count_digits (by decide)]
  rfl

theorem count_colon_site (endpoint : Endpoint) :
    endpoint.site.count ':' = endpoint.host.toList.count ':' + 1 := by
  rw [site, List.count_append, List.count_cons, count_digits (by decide)]
  rfl

/-! ## What is told -/

/-- The last colon of a site parts the host from the port. -/
theorem eq_of_site_eq {left right : Endpoint} (hsite : left.site = right.site) :
    left.host = right.host ∧ left.port = right.port := by
  have hcolons : left.host.toList.count ':' = right.host.toList.count ':' := by
    have hcounts := congrArg (List.count ':') hsite
    rw [count_colon_site, count_colon_site] at hcounts
    exact Nat.succ.inj hcounts
  obtain ⟨hhost, hport⟩ := append_cons_inj_of_count hsite hcolons
  exact ⟨String.toList_inj.1 hhost, UInt16.toNat_inj.1 (digits_injective hport)⟩

/-- Where a url is the same, so are the scheme and all that follows it. -/
theorem secure_eq_of_url_eq {left right : Endpoint} (hurl : left.url = right.url) :
    left.secure = right.secure ∧
      left.site ++ left.path.toList = right.site ++ right.path.toList := by
  have htexts := congrArg String.toList hurl
  rw [toList_url, toList_url] at htexts
  by_cases hsecure : left.secure = right.secure
  · rw [scheme, scheme, hsecure] at htexts
    exact ⟨hsecure, List.append_cancel_left htexts⟩
  · -- One url goes on with a colon where the other has the last letter of its scheme.
    cases hleft : left.secure <;> cases hright : right.secure <;>
      simp [scheme, hleft, hright] at hsecure htexts

theorem eq_of_url_eq {left right : Endpoint} (hleft : left.IsProper) (hright : right.IsProper)
    (hurl : left.url = right.url)
    (hslashes : left.host.toList.count '/' = right.host.toList.count '/') : left = right := by
  obtain ⟨hsecure, hbehind⟩ := secure_eq_of_url_eq hurl
  obtain ⟨leftRest, hleftPath⟩ := List.head?_eq_some_iff.1 hleft.slash
  obtain ⟨rightRest, hrightPath⟩ := List.head?_eq_some_iff.1 hright.slash
  rw [← count_slash_site, ← count_slash_site] at hslashes
  rw [hleftPath, hrightPath] at hbehind
  obtain ⟨hsite, hrest⟩ := append_cons_inj_of_count hbehind hslashes
  obtain ⟨hhost, hport⟩ := eq_of_site_eq hsite
  have hpath : left.path = right.path := by
    rw [← String.toList_inj, hleftPath, hrightPath, hrest]
  cases left
  cases right
  cases hsecure
  cases hhost
  cases hport
  cases hpath
  rfl

/-! ## What seems to be the site -/

/-- What follows the first `://`. -/
def behindMark : List Char → List Char
  | ':' :: '/' :: '/' :: rest => rest
  | _ :: rest => behindMark rest
  | [] => []

/-- The part of a url between `://` and the first slash after it. -/
def apparentSite (url : String) : String :=
  String.ofList ((behindMark url.toList).takeWhile (· != '/'))

theorem behindMark_url (endpoint : Endpoint) :
    behindMark endpoint.url.toList = endpoint.site ++ endpoint.path.toList := by
  rw [toList_url, scheme]
  split <;> rfl

theorem slash_mem_site_iff {endpoint : Endpoint} :
    '/' ∈ endpoint.site ↔ '/' ∈ endpoint.host.toList := by
  rw [← List.count_pos_iff, count_slash_site, List.count_pos_iff]

theorem ofList_site (endpoint : Endpoint) :
    String.ofList endpoint.site = endpoint.host ++ ":" ++ toString endpoint.port.toNat := by
  rw [← String.toList_inj]
  simp [site, Decimal.digits, Nat.toString_eq_repr]

/-- The site is what it seems to be exactly if the host holds no slash. -/
theorem apparentSite_url_iff {endpoint : Endpoint} (hproper : endpoint.IsProper) :
    apparentSite endpoint.url = endpoint.host ++ ":" ++ toString endpoint.port.toNat ↔
      '/' ∉ endpoint.host.toList := by
  rw [apparentSite, behindMark_url, ← ofList_site, String.ofList_inj, ← slash_mem_site_iff]
  constructor
  · intro hsite hslash
    rw [← hsite] at hslash
    simpa using List.mem_takeWhile_imp hslash
  · intro hnone
    have hall : ∀ c ∈ endpoint.site, (c != '/') = true := fun c hmember =>
      bne_iff_ne.2 (ne_of_mem_of_not_mem hmember hnone)
    obtain ⟨rest, hrest⟩ := List.head?_eq_some_iff.1 hproper.slash
    rw [List.takeWhile_append_of_pos hall, hrest]
    simp

/-- A url identifies its endpoint up to the slashes of the host.  Of two accepted endpoints with one
url the schemes are the same, and so is all the rest exactly if their hosts hold equally many
slashes.  What stands between `://` and the next slash is the host and the port exactly if the host
holds none.  The parts of an accepted endpoint build it again. -/
theorem url_identifies_endpoint {left right : Endpoint} (hleft : left.Accepted)
    (hright : right.Accepted) :
    (left.url = right.url → left.scheme = right.scheme ∧
      (left.host.toList.count '/' = right.host.toList.count '/' ↔ left = right)) ∧
      (apparentSite left.url = left.host ++ ":" ++ toString left.port.toNat ↔
        '/' ∉ left.host.toList) ∧
      of left.host left.port left.secure left.path = .ok left := by
  refine ⟨fun hurl => ⟨?_, ?_, ?_⟩, apparentSite_url_iff hleft.isProper, hleft.of_parts⟩
  · rw [scheme, scheme, (secure_eq_of_url_eq hurl).1]
  · exact eq_of_url_eq hleft.isProper hright.isProper hurl
  · rintro rfl
    rfl

/-- Two paths that differ in their first slash give one endpoint; its host holds a slash, so the
site is not what it seems to be. -/
theorem supplied_slash_gives_same_endpoint :
    let left : Endpoint := ⟨"a/b", 80, true, "/ws"⟩
    of "a/b" 80 true "/ws" = .ok left ∧
      (∀ right, of "a/b" 80 true "ws" = .ok right → left = right) ∧
      apparentSite left.url ≠ left.host ++ ":" ++ toString left.port.toNat := by
  intro left
  have hleft : left.Accepted := ⟨"a/b", 80, true, "/ws", by decide⟩
  refine ⟨by decide, fun right hof => ?_, fun hsame => ?_⟩
  · obtain ⟨hidentified, -, -⟩ := url_identifies_endpoint hleft ⟨_, _, _, _, hof⟩
    obtain ⟨-, -, rfl⟩ := of_eq_ok_iff.1 hof
    exact (hidentified (by decide)).2.1 (by decide)
  · obtain ⟨-, hsite, -⟩ := url_identifies_endpoint hleft hleft
    exact hsite.1 hsame (by decide)

/-- A host with a slash takes the port and the path of another endpoint into itself. -/
theorem slash_in_host_gives_same_url :
    let left : Endpoint := ⟨"a:1/b", 2, false, "/c"⟩
    let right : Endpoint := ⟨"a", 1, false, "/b:2/c"⟩
    of "a:1/b" 2 false "/c" = .ok left ∧ of "a" 1 false "/b:2/c" = .ok right ∧
      left.url = right.url ∧ left.host ≠ right.host ∧ left.port ≠ right.port ∧
      left.path ≠ right.path ∧
      apparentSite left.url ≠ left.host ++ ":" ++ toString left.port.toNat := by
  decide

end Endpoint

end Lifeline
