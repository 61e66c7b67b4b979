import Vussa.Model.Types

/-!
The hosts a link preview is fetched from (`api/discovery.rs`): `is_public_ip`, and
`ensure_public_preview_host`, which resolves the name of a URL and picks the first address if every
one of them is public. The predicates on addresses and `to_ipv4` are those of Rust's standard
library; the resolver is a parameter.

* `Ipv4Addr`, `Ipv6Addr`, `IpAddr`: the addresses and their predicates;
* `isPublicIp`, `ensurePublicPreviewHost`: the two functions;
* `Restricted`: the addresses a preview must not be fetched from;
* `Unscreened`: those among them that `is_public_ip` lets pass, and `isPublicIp_iff`: **there are
  no others**;
* `publicHost_iff`: the same of lists of resolved addresses.
-/

namespace Vussa.Previews

/-! ### Addresses -/

/-- `std::net::Ipv4Addr`, by its octets. -/
structure Ipv4Addr where
  a : UInt8
  b : UInt8
  c : UInt8
  d : UInt8
  deriving DecidableEq, Repr

namespace Ipv4Addr

/-- `127.0.0.0/8`. -/
def isLoopback (ip : Ipv4Addr) : Bool := ip.a == 127

/-- `10.0.0.0/8`, `172.16.0.0/12` and `192.168.0.0/16`. -/
def isPrivate (ip : Ipv4Addr) : Bool :=
  ip.a == 10 || (ip.a == 172 && 16 ≤ ip.b && ip.b ≤ 31) || (ip.a == 192 && ip.b == 168)

/-- `169.254.0.0/16`. -/
def isLinkLocal (ip : Ipv4Addr) : Bool := ip.a == 169 && ip.b == 254

/-- `0.0.0.0`. -/
def isUnspecified (ip : Ipv4Addr) : Bool := ip == ⟨0, 0, 0, 0⟩

/-- `255.255.255.255`. -/
def isBroadcast (ip : Ipv4Addr) : Bool := ip == ⟨255, 255, 255, 255⟩

/-- `224.0.0.0/4`. -/
def isMulticast (ip : Ipv4Addr) : Bool := 224 ≤ ip.a && ip.a ≤ 239

end Ipv4Addr

/-- `std::net::Ipv6Addr`, by its segments. -/
structure Ipv6Addr where
  s0 : UInt16
  s1 : UInt16
  s2 : UInt16
  s3 : UInt16
  s4 : UInt16
  s5 : UInt16
  s6 : UInt16
  s7 : UInt16
  deriving DecidableEq, Repr

namespace Ipv6Addr

/-- `::1`. -/
def isLoopback (ip : Ipv6Addr) : Bool := ip == ⟨0, 0, 0, 0, 0, 0, 0, 1⟩

/-- `::`. -/
def isUnspecified (ip : Ipv6Addr) : Bool := ip == ⟨0, 0, 0, 0, 0, 0, 0, 0⟩

/-- `fc00::/7`. -/
def isUniqueLocal (ip : Ipv6Addr) : Bool := ip.s0 &&& 0xfe00 == 0xfc00

/-- `fe80::/10`. -/
def isUnicastLinkLocal (ip : Ipv6Addr) : Bool := ip.s0 &&& 0xffc0 == 0xfe80

/-- `ff00::/8`. -/
def isMulticast (ip : Ipv6Addr) : Bool := ip.s0 &&& 0xff00 == 0xff00

/-- `Ipv6Addr::to_ipv4`: `::a.b.c.d` and `::ffff:a.b.c.d` are `a.b.c.d`; so `::1` is `0.0.0.1`. -/
def toIpv4 (ip : Ipv6Addr) : Option Ipv4Addr :=
  if ip.s0 = 0 ∧ ip.s1 = 0 ∧ ip.s2 = 0 ∧ ip.s3 = 0 ∧ ip.s4 = 0 ∧ (ip.s5 = 0 ∨ ip.s5 = 0xffff) then
    some ⟨(ip.s6 >>> 8).toUInt8, ip.s6.toUInt8, (ip.s7 >>> 8).toUInt8, ip.s7.toUInt8⟩
  else none

end Ipv6Addr

/-- `std::net::IpAddr`. -/
inductive IpAddr where
  | v4 (ip : Ipv4Addr)
  | v6 (ip : Ipv6Addr)
  deriving DecidableEq, Repr

/-! ### The two functions -/

/-- The IPv4 branch of `is_public_ip`. -/
def isPublicIpv4 (ip : Ipv4Addr) : Bool :=
  !ip.isLoopback && !ip.isPrivate && !ip.isLinkLocal && !ip.isUnspecified && !ip.isMulticast

/-- `is_public_ip`. -/
def isPublicIp : IpAddr → Bool
  | .v4 ip => isPublicIpv4 ip
  | .v6 ip =>
      match ip.toIpv4 with
      | some ipv4 => isPublicIpv4 ipv4
      | none =>
          !ip.isLoopback && !ip.isUniqueLocal && !ip.isUnicastLinkLocal && !ip.isUnspecified &&
            !ip.isMulticast

/-- `std::net::SocketAddr`. -/
structure SocketAddr where
  ip : IpAddr
  port : UInt16
  deriving DecidableEq, Repr

/-- What `ensure_public_preview_host` reads of a `reqwest::Url`. -/
structure PreviewUrl where
  hostStr : Option String
  portOrKnownDefault : Option UInt16
  deriving DecidableEq, Repr

/-- `tokio::net::lookup_host`; `none` where it fails. -/
abbrev LookupHost := String → UInt16 → Option (List SocketAddr)

/-- The names of this machine. -/
def isLocalName (host : String) : Bool :=
  host.toList.map Char.toLower == "localhost".toList || ".localhost".toList.isSuffixOf host.toList

/-- The loop over the resolved addresses. -/
def selectAddress (selected : Option SocketAddr) :
    List SocketAddr → Except AppError (Option SocketAddr)
  | [] => .ok selected
  | address :: addresses =>
      if !isPublicIp address.ip then .error (.forbidden "preview host is not public")
      else selectAddress (some (selected.getD address)) addresses

/-- `ensure_public_preview_host`. -/
def ensurePublicPreviewHost (lookupHost : LookupHost) (url : PreviewUrl) :
    Except AppError SocketAddr :=
  match url.hostStr with
  | none => .error (.badRequest "preview URL has no host")
  | some host =>
      if isLocalName host then .error (.forbidden "preview host is not public")
      else
        match lookupHost host (url.portOrKnownDefault.getD 80) with
        | none => .error (.badRequest "preview host could not be resolved")
        | some addresses =>
            match selectAddress none addresses with
            | .error e => .error e
            | .ok none => .error (.badRequest "preview host could not be resolved")
            | .ok (some address) => .ok address

/-- The addresses the name of a URL is resolved to. -/
def resolved (lookupHost : LookupHost) (url : PreviewUrl) : List SocketAddr :=
  (url.hostStr.bind fun host => lookupHost host (url.portOrKnownDefault.getD 80)).getD []

/-! ### Restricted addresses -/

/-- The IPv4 addresses that are no host of the internet. -/
def RestrictedIpv4 (ip : Ipv4Addr) : Prop :=
  ip.isLoopback ∨ ip.isPrivate ∨ ip.isLinkLocal ∨ ip.isUnspecified ∨ ip.isBroadcast ∨ ip.isMulticast

/-- The addresses that are no host of the internet, themselves or through the IPv4 address they
embed. -/
def Restricted : IpAddr → Prop
  | .v4 ip => RestrictedIpv4 ip
  | .v6 ip =>
      ip.isLoopback ∨ ip.isUniqueLocal ∨ ip.isUnicastLinkLocal ∨ ip.isUnspecified ∨
        ip.isMulticast ∨ ∃ ipv4 ∈ ip.toIpv4, RestrictedIpv4 ipv4

/-- The addresses that no test of `is_public_ip` reaches: `255.255.255.255`, which it does not ask
for, itself or embedded, and `::1`, which embeds `0.0.0.1`. -/
def Unscreened : IpAddr → Prop
  | .v4 ip => ip.isBroadcast
  | .v6 ip => ip.isLoopback ∨ ∃ ipv4 ∈ ip.toIpv4, ipv4.isBroadcast

instance : DecidablePred RestrictedIpv4 := fun _ => inferInstanceAs (Decidable (_ ∨ _))

instance : DecidablePred Restricted
  | .v4 ip => inferInstanceAs (Decidable (RestrictedIpv4 ip))
  | .v6 _ => inferInstanceAs (Decidable (_ ∨ _))

instance : DecidablePred Unscreened
  | .v4 ip => inferInstanceAs (Decidable (ip.isBroadcast = true))
  | .v6 _ => inferInstanceAs (Decidable (_ ∨ _))

/-- The IPv4 branch lets pass what is not restricted, and the broadcast address. -/
lemma isPublicIpv4_iff {ip : Ipv4Addr} :
    isPublicIpv4 ip ↔ ¬ RestrictedIpv4 ip ∨ ip.isBroadcast := by
  by_cases h : ip.isBroadcast
  · obtain rfl : ip = ⟨255, 255, 255, 255⟩ := by simpa [Ipv4Addr.isBroadcast] using h
    decide
  · simp only [isPublicIpv4, RestrictedIpv4, Bool.and_eq_true, Bool.not_eq_true', h, not_or,
      Bool.not_eq_true, Bool.false_eq_true, false_or, or_false, and_assoc]

/-- An address with an embedded one starts with a zero segment: it is in no range of IPv6. -/
lemma range_eq_false_of_toIpv4 {ip : Ipv6Addr} {ipv4 : Ipv4Addr} (h : ip.toIpv4 = some ipv4) :
    ip.isUniqueLocal = false ∧ ip.isUnicastLinkLocal = false ∧ ip.isMulticast = false := by
  rw [Ipv6Addr.toIpv4] at h
  split_ifs at h with hzero
  simp only [Ipv6Addr.isUniqueLocal, Ipv6Addr.isUnicastLinkLocal, Ipv6Addr.isMulticast, hzero.1]
  decide

/-- The unspecified address embeds the unspecified address. -/
lemma isUnspecified_toIpv4 {ip : Ipv6Addr} (h : ip.isUnspecified) :
    ip.toIpv4 = some ⟨0, 0, 0, 0⟩ := by
  obtain rfl : ip = ⟨0, 0, 0, 0, 0, 0, 0, 0⟩ := by simpa [Ipv6Addr.isUnspecified] using h
  decide

/-- The loopback address embeds an address that is not restricted. -/
lemma isLoopback_toIpv4 {ip : Ipv6Addr} (h : ip.isLoopback) :
    ip.toIpv4 = some ⟨0, 0, 0, 1⟩ := by
  obtain rfl : ip = ⟨0, 0, 0, 0, 0, 0, 0, 1⟩ := by simpa [Ipv6Addr.isLoopback] using h
  decide

/-- **`is_public_ip`**: an address passes if it is not restricted, or is one of those no test
reaches. -/
lemma isPublicIp_iff {ip : IpAddr} : isPublicIp ip ↔ ¬ Restricted ip ∨ Unscreened ip := by
  cases ip with
  | v4 ip => exact isPublicIpv4_iff
  | v6 ip =>
      cases hembedded : ip.toIpv4 with
      | none =>
          have hloopback : ip.isLoopback = false := by
            by_contra h
            rw [isLoopback_toIpv4 (by simpa using h)] at hembedded
            exact absurd hembedded (by simp)
          simp [isPublicIp, Restricted, Unscreened, hembedded, hloopback, and_assoc]
      | some ipv4 =>
          obtain ⟨hunique, hlocal, hmulticast⟩ := range_eq_false_of_toIpv4 hembedded
          simp only [isPublicIp, Restricted, Unscreened, hembedded, hunique, hlocal, hmulticast,
            Bool.false_eq_true, false_or, Option.mem_def, Option.some.injEq, exists_eq_left',
            isPublicIpv4_iff, not_or]
          by_cases hloopback : ip.isLoopback
          · rw [isLoopback_toIpv4 hloopback] at hembedded
            obtain rfl := Option.some.inj hembedded
            simp only [hloopback, true_or, or_true, iff_true]
            decide
          · have hunspecified : ip.isUnspecified → RestrictedIpv4 ipv4 := by
              intro h
              rw [isUnspecified_toIpv4 h] at hembedded
              obtain rfl := Option.some.inj hembedded
              decide
            simp only [hloopback, Bool.false_eq_true, not_false_eq_true, true_and, false_or]
            tauto

/-- What no test reaches is restricted. -/
lemma Unscreened.restricted {ip : IpAddr} (h : Unscreened ip) : Restricted ip := by
  cases ip with
  | v4 ip => exact .inr (.inr (.inr (.inr (.inl h))))
  | v6 ip =>
      rcases h with hloopback | ⟨ipv4, hembedded, hbroadcast⟩
      · exact .inl hloopback
      · exact .inr (.inr (.inr (.inr (.inr ⟨ipv4, hembedded,
          .inr (.inr (.inr (.inr (.inl hbroadcast))))⟩))))

/-! ### Resolved addresses -/

/-- The loop picks the first address, if every address is public. -/
lemma selectAddress_eq {selected : Option SocketAddr} {addresses : List SocketAddr} :
    selectAddress selected addresses =
      if ∀ address ∈ addresses, isPublicIp address.ip then .ok (selected.or addresses.head?)
      else .error (.forbidden "preview host is not public") := by
  induction addresses generalizing selected with
  | nil => simp [selectAddress]
  | cons address addresses ih =>
      rw [selectAddress]
      by_cases hpublic : isPublicIp address.ip
      · rw [if_neg (by simpa using hpublic), ih]
        cases selected <;> simp [hpublic]
      · rw [if_pos (by simpa using hpublic), if_neg (by simp [hpublic])]

/-- A host is accepted with the first of its addresses, if its name is not local and every address
is public. -/
lemma ensurePublicPreviewHost_eq_ok {lookupHost : LookupHost} {url : PreviewUrl} {a : SocketAddr} :
    ensurePublicPreviewHost lookupHost url = .ok a ↔
      (∀ host ∈ url.hostStr, ¬ isLocalName host) ∧
      (∀ address ∈ resolved lookupHost url, isPublicIp address.ip) ∧
        (resolved lookupHost url).head? = some a := by
  unfold ensurePublicPreviewHost resolved
  cases hhost : url.hostStr with
  | none => simp
  | some host =>
      by_cases hlocal : isLocalName host
      · simp [hlocal]
      · cases hlookup : lookupHost host (url.portOrKnownDefault.getD 80) with
        | none => simp [hlocal, hlookup]
        | some addresses =>
            simp only [hlocal, hlookup, selectAddress_eq, Option.none_or, Option.bind_some,
              Option.getD_some]
            by_cases hpublic : ∀ address ∈ addresses, isPublicIp address.ip
            · rw [if_pos hpublic]
              cases addresses with
              | nil => simp
              | cons address rest => simpa [hlocal] using fun _ => by simpa using hpublic
            · simp [hpublic]

/-- What a preview may rely on: `is_public_ip` tells the truth of an address. -/
def ScreensAddress (ip : IpAddr) : Prop := isPublicIp ip → ¬ Restricted ip

/-- What a preview may rely on: an accepted host has the address, and none that is restricted. -/
def ScreensHost (lookupHost : LookupHost) (url : PreviewUrl) : Prop :=
  ∀ a, ensurePublicPreviewHost lookupHost url = .ok a →
    a ∈ resolved lookupHost url ∧ ∀ address ∈ resolved lookupHost url, ¬ Restricted address.ip

/-- **The hosts of a preview**: an address is screened unless it is, or embeds, `255.255.255.255` or
is `::1`. A host is screened if its addresses are none of these; or if it is refused for its name,
or for another address. -/
theorem publicHost_iff (ip : IpAddr) (lookupHost : LookupHost) (url : PreviewUrl) :
    (ScreensAddress ip ↔ ¬ Unscreened ip) ∧
    (ScreensHost lookupHost url ↔
      (∀ address ∈ resolved lookupHost url, ¬ Unscreened address.ip) ∨
      (∃ host ∈ url.hostStr, isLocalName host) ∨
      ∃ address ∈ resolved lookupHost url, Restricted address.ip ∧ ¬ Unscreened address.ip) := by
  have haddress : ScreensAddress ip ↔ ¬ Unscreened ip := by
    rw [ScreensAddress, isPublicIp_iff]
    constructor
    · intro h hunscreened
      exact h (.inr hunscreened) hunscreened.restricted
    · rintro hscreened (hfree | hunscreened)
      · exact hfree
      · exact absurd hunscreened hscreened
  refine ⟨haddress, ?_⟩
  constructor
  · intro h
    by_contra hnone
    simp only [not_or, not_forall, not_exists, not_and, not_not] at hnone
    obtain ⟨⟨address, hmem, hunscreened⟩, hname, hother⟩ := hnone
    have hpublic : ∀ address ∈ resolved lookupHost url, isPublicIp address.ip := by
      intro address' hmem'
      rw [isPublicIp_iff]
      by_cases hrestricted : Restricted address'.ip
      · exact .inr (hother address' hmem' hrestricted)
      · exact .inl hrestricted
    obtain ⟨a, hhead⟩ : ∃ a, (resolved lookupHost url).head? = some a := by
      cases hresolved : resolved lookupHost url with
      | nil => exact absurd (hresolved ▸ hmem) (List.not_mem_nil)
      | cons a rest => exact ⟨a, rfl⟩
    have hok := ensurePublicPreviewHost_eq_ok.mpr ⟨hname, hpublic, hhead⟩
    exact (h a hok).2 address hmem hunscreened.restricted
  · intro h a hok
    obtain ⟨hname, hpublic, hhead⟩ := ensurePublicPreviewHost_eq_ok.mp hok
    refine ⟨List.mem_of_mem_head? hhead, fun address hmem => ?_⟩
    have hpassed := isPublicIp_iff.mp (hpublic address hmem)
    rcases h with hscreened | ⟨host, hhost, hlocal⟩ | ⟨address', hmem', hrestricted, hscreened⟩
    · exact hpassed.resolve_right (hscreened address hmem)
    · exact absurd hlocal (hname host hhost)
    · exact absurd ((isPublicIp_iff.mp (hpublic address' hmem')).resolve_right hscreened)
        (not_not.mpr hrestricted)

/-- `::1` passes, and so does a name that resolves to it. -/
theorem loopback_public :
    ¬ ScreensAddress (.v6 ⟨0, 0, 0, 0, 0, 0, 0, 1⟩) ∧
    ¬ ScreensAddress (.v4 ⟨255, 255, 255, 255⟩) ∧
    ¬ ScreensHost (fun _ port => some [⟨.v6 ⟨0, 0, 0, 0, 0, 0, 0, 1⟩, port⟩])
      ⟨some "example.test", some 80⟩ := by
  refine ⟨fun h => h (by decide) (by decide), fun h => h (by decide) (by decide), fun h => ?_⟩
  have hok : ensurePublicPreviewHost
      (fun _ port => some [⟨.v6 ⟨0, 0, 0, 0, 0, 0, 0, 1⟩, port⟩]) ⟨some "example.test", some 80⟩ =
        .ok ⟨.v6 ⟨0, 0, 0, 0, 0, 0, 0, 1⟩, 80⟩ := by decide +kernel
  exact (h _ hok).2 _ (List.mem_singleton_self _) (by decide)

end Vussa.Previews
