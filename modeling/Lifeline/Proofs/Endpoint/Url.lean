import Lifeline.Endpoint
import Lifeline.Proofs.Json.Number
import Lifeline.Proofs.Json.Parsed
import Lifeline.Uri
import Mathlib.Data.List.TakeWhile

/-!
# The url of an endpoint

A url of an endpoint is taken apart again by whoever dials it, and the target of
the request by whoever is asked.  A host that ends no authority comes back whole,
and behind it the path with its query as the endpoint holds them
(`eq_of_parse_url`).  The request asks for these to the letter (`parse_target`),
so that it names the part of the path before its first question mark.
-/

namespace Lifeline

namespace Uri

theorem takeWhile_bne_eq_self {c : Char} {text : List Char} (hnone : c ∉ text) :
    text.takeWhile (· != c) = text := by
  rw [List.takeWhile_eq_self_iff]
  intro d hmember
  exact bne_iff_ne.2 (ne_of_mem_of_not_mem hmember hnone)

theorem readAuthority_eq_ok {text authority rest : List Char}
    (hread : readAuthority text = .ok (authority, rest)) :
    authority = text.takeWhile (fun c => !endsAuthority c) ∧
      rest = text.dropWhile (fun c => !endsAuthority c) := by
  obtain ⟨scan, -, hread⟩ := bind_eq_ok.1 hread
  split at hread
  · cases hread
    exact ⟨rfl, rfl⟩
  · cases hread

theorem readPath_eq_ok {text kept : List Char} (hread : readPath text = .ok kept) :
    kept = text.takeWhile (· != '#') := by
  rw [readPath] at hread
  split at hread
  · cases hread
    rfl
  · cases hread

/-- A url with a scheme has the authority and the path behind it, cut where the
authority ends. -/
theorem readFull_eq_ok {text name rest : List Char} {uri : Uri}
    (hscheme : splitScheme text = .ok (some (name, rest))) (hread : readFull text = .ok uri) :
    ∃ path, readPath (rest.dropWhile fun c => !endsAuthority c) = .ok path ∧
      uri = ⟨some (String.ofList name),
        String.ofList (rest.takeWhile fun c => !endsAuthority c), String.ofList path⟩ := by
  rw [readFull, hscheme] at hread
  obtain ⟨found, hfound, hread⟩ := bind_eq_ok.1 hread
  cases hfound
  cases rest with
  | nil => cases hread
  | cons first rest =>
      obtain ⟨⟨authority, behind⟩, hauthority, hread⟩ := bind_eq_ok.1 hread
      obtain ⟨rfl, rfl⟩ := readAuthority_eq_ok hauthority
      dsimp only at hread
      split at hread
      · cases hread
      · obtain ⟨path, hpath, hread⟩ := bind_eq_ok.1 hread
        cases hread
        exact ⟨path, hpath, rfl⟩

end Uri

namespace Endpoint

/-- The path with the slash it starts with. -/
def slashed (path : String) : String :=
  if path.toList.head? = some '/' then path else "/" ++ path

theorem slashed_eq_self {path : String} (hslash : path.toList.head? = some '/') :
    slashed path = path :=
  if_pos hslash

theorem head?_slashed (path : String) : (slashed path).toList.head? = some '/' := by
  rw [slashed]
  split
  · next hslash => exact hslash
  · simp

theorem mem_slashed {path : String} {c : Char} (hmember : c ∈ (slashed path).toList) :
    c = '/' ∨ c ∈ path.toList := by
  rw [slashed] at hmember
  split at hmember
  · exact .inr hmember
  · simpa using hmember

theorem of_eq (host : String) (port : UInt16) (secure : Bool) (path : String) :
    of host port secure path =
      if host.toList.all Text.isBlank then .error .emptyHost
      else if path.toList.any isBarred then .error (.invalidPath path)
      else .ok ⟨host, port, secure, slashed path⟩ := by
  rw [of]
  congr 2
  split
  · next hslash => rw [slashed_eq_self (by simp [hslash])]
  · next hother =>
      have hbare : path.toList.head? ≠ some '/' := by
        intro hslash
        obtain ⟨rest, hrest⟩ := List.head?_eq_some_iff.1 hslash
        exact hother rest hrest
      rw [slashed, if_neg hbare]

theorem of_eq_ok_iff {host : String} {port : UInt16} {secure : Bool} {path : String}
    {endpoint : Endpoint} :
    of host port secure path = .ok endpoint ↔
      host.toList.all Text.isBlank = false ∧ path.toList.any isBarred = false ∧
        endpoint = ⟨host, port, secure, slashed path⟩ := by
  rw [of_eq]
  cases host.toList.all Text.isBlank <;> cases path.toList.any isBarred <;> simp [eq_comm]

/-- What `of` sees to: the path starts with a slash, and no fragment follows it. -/
structure IsProper (endpoint : Endpoint) : Prop where
  slash : endpoint.path.toList.head? = some '/'
  number : '#' ∉ endpoint.path.toList

theorem isProper_of_ok {host : String} {port : UInt16} {secure : Bool} {path : String}
    {endpoint : Endpoint} (hof : of host port secure path = .ok endpoint) :
    endpoint.IsProper := by
  obtain ⟨-, hbarred, rfl⟩ := of_eq_ok_iff.1 hof
  have hnumber : '#' ∉ (slashed path).toList := by
    intro hmember
    obtain hslash | hgiven := mem_slashed hmember
    · exact absurd hslash (by decide)
    · exact List.any_eq_false.1 hbarred '#' hgiven rfl
  exact ⟨head?_slashed path, hnumber⟩

/-- What names the machine: the host and the port. -/
def site (endpoint : Endpoint) : List Char :=
  endpoint.host.toList ++ ':' :: Decimal.digits endpoint.port.toNat

theorem toList_url (endpoint : Endpoint) :
    endpoint.url.toList =
      endpoint.scheme.toList ++ "://".toList ++ (endpoint.site ++ endpoint.path.toList) := by
  simp [url, site, Decimal.digits, Nat.toString_eq_repr]

/-- No character of the host ends an authority. -/
def HostEndsNowhere (endpoint : Endpoint) : Prop :=
  endpoint.host.toList.any Uri.endsAuthority = false

theorem splitScheme_url (endpoint : Endpoint) (rest : List Char) :
    Uri.splitScheme (endpoint.scheme.toList ++ "://".toList ++ rest) =
      .ok (some (endpoint.scheme.toList, rest)) := by
  cases hsecure : endpoint.secure <;>
    simp [scheme, hsecure, Uri.splitScheme, Uri.isSchemeChar, Uri.longestScheme]

theorem not_endsAuthority_of_mem_site {endpoint : Endpoint} (hhost : endpoint.HostEndsNowhere)
    {c : Char} (hmember : c ∈ endpoint.site) : Uri.endsAuthority c = false := by
  rw [site, List.mem_append, List.mem_cons] at hmember
  obtain hhostChar | rfl | hdigit := hmember
  · exact Bool.eq_false_iff.2 (List.any_eq_false.1 hhost c hhostChar)
  · rfl
  · have hwritten := Decimal.isDigit_of_mem_digits hdigit
    rw [Bool.eq_false_iff]
    intro hends
    simp only [Uri.endsAuthority, Bool.or_eq_true, beq_iff_eq] at hends
    obtain (rfl | rfl) | rfl := hends <;> exact absurd hwritten (by decide)

/-- The authority ends where the path begins. -/
theorem cut_site {endpoint : Endpoint} (hproper : endpoint.IsProper)
    (hhost : endpoint.HostEndsNowhere) :
    (endpoint.site ++ endpoint.path.toList).takeWhile (fun c => !Uri.endsAuthority c) =
        endpoint.site ∧
      (endpoint.site ++ endpoint.path.toList).dropWhile (fun c => !Uri.endsAuthority c) =
        endpoint.path.toList := by
  have hsite : ∀ c ∈ endpoint.site, (!Uri.endsAuthority c) = true := by
    intro c hmember
    rw [not_endsAuthority_of_mem_site hhost hmember, Bool.not_false]
  obtain ⟨rest, hrest⟩ := List.head?_eq_some_iff.1 hproper.slash
  have hslashEnds : Uri.endsAuthority '/' = true := rfl
  rw [List.takeWhile_append_of_pos hsite, List.dropWhile_append_of_pos hsite, hrest]
  simp [hslashEnds]

/-- A url of an endpoint is neither empty nor a path. -/
theorem parse_url_eq_ok {endpoint : Endpoint} {uri : Uri}
    (hparse : Uri.parse endpoint.url = .ok uri) :
    Text.byteLength endpoint.url.toList ≤ Uri.longest ∧
      Uri.readFull endpoint.url.toList = .ok uri := by
  obtain ⟨first, second, rest, htext, hslash⟩ :
      ∃ first second rest, endpoint.url.toList = first :: second :: rest ∧ first ≠ '/' := by
    rw [toList_url]
    cases hsecure : endpoint.secure <;> simp [scheme, hsecure]
  rw [Uri.parse] at hparse
  split at hparse
  · cases hparse
  · next hlength =>
      rw [htext] at hparse hlength ⊢
      split at hparse
      · next hnil => cases hnil
      · next hsingle => cases hsingle
      · next hpath =>
          cases hpath
          exact absurd rfl hslash
      · exact ⟨Nat.le_of_not_lt hlength, hparse⟩

/-- The parts that a url is taken apart into are those it was written from. -/
theorem eq_of_parse_url {endpoint : Endpoint} {uri : Uri} (hproper : endpoint.IsProper)
    (hhost : endpoint.HostEndsNowhere) (hparse : Uri.parse endpoint.url = .ok uri) :
    Uri.readPath endpoint.path.toList = .ok endpoint.path.toList ∧
      uri = ⟨some endpoint.scheme, String.ofList endpoint.site, endpoint.path⟩ := by
  obtain ⟨-, hfull⟩ := parse_url_eq_ok hparse
  rw [toList_url] at hfull
  obtain ⟨path, hpath, rfl⟩ := Uri.readFull_eq_ok (splitScheme_url endpoint _) hfull
  obtain ⟨hauthority, hbehind⟩ := cut_site hproper hhost
  rw [hbehind] at hpath
  have hkept := Uri.takeWhile_bne_eq_self hproper.number
  obtain rfl : path = endpoint.path.toList := (Uri.readPath_eq_ok hpath).trans hkept
  rw [hauthority, String.ofList_toList, String.ofList_toList]
  exact ⟨hpath, rfl⟩

/-- A request for the path of a url, as the url is dialed, is a request for the
path that the url names. -/
theorem parse_target {endpoint : Endpoint} {uri : Uri} (hproper : endpoint.IsProper)
    (hhost : endpoint.HostEndsNowhere) (hparse : Uri.parse endpoint.url = .ok uri) :
    Uri.parse uri.target = .ok (Uri.ofPath endpoint.path.toList) := by
  obtain ⟨hlength, -⟩ := parse_url_eq_ok hparse
  obtain ⟨hpath, rfl⟩ := eq_of_parse_url hproper hhost hparse
  have hshort : Text.byteLength endpoint.path.toList ≤ Uri.longest := by
    simp only [toList_url, Text.byteLength_append] at hlength
    omega
  obtain ⟨rest, hrest⟩ := List.head?_eq_some_iff.1 hproper.slash
  have hwritten : endpoint.path ≠ "" := by
    rintro hempty
    simp [hempty] at hrest
  rw [Uri.target, if_neg (by simpa using hwritten), Uri.parse, if_neg (Nat.not_lt.2 hshort)]
  rw [hrest] at hpath ⊢
  cases rest with
  | nil => rfl
  | cons second rest => exact congrArg (Except.map Uri.ofPath) hpath

theorem path_ofPath {path : List Char} (hslash : path.head? = some '/') :
    (Uri.ofPath path).path = String.ofList (path.takeWhile (· != '?')) := by
  obtain ⟨rest, rfl⟩ := List.head?_eq_some_iff.1 hslash
  simp [Uri.path, Uri.ofPath]

end Endpoint

end Lifeline
