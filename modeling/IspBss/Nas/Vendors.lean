import IspBss.Billing.Gst
import IspBss.Lib.Rows

/-! `nas`: which attributes tell a NAS what rate to apply, and which NAS is which.

        rate in the packet      mikrotik, huawei, zte           a figure, from the rate string
        name in the packet      cisco, juniper, cisco_wlc,      a policy that is set up on the NAS, from
                                aruba, ruckus                   the plan and the vendor

    An attribute of a vendor is wrapped twice: a sub-attribute (type, length, value) inside the
    Vendor-Specific attribute 26, behind the vendor's number. -/

namespace IspBss.Nas

open Lib

/-- `nas.Vendor`; a text that is none of the known ones is kept. -/
inductive Vendor where
  | mikrotik | huawei | zte | cisco | juniper | ciscoWLC | aruba | ruckus
  | other (name : String)
  deriving DecidableEq

/-- `RateProfile`: a rate and the name of a policy; a builder reads one of them. -/
structure RateProfile where
  rateLimitString : String
  profileName : String
  deriving DecidableEq

/-- One attribute of a packet. -/
structure Attr where
  typ : UInt8
  value : List UInt8
  deriving DecidableEq

/-- Why no attributes could be built. -/
inductive BuildErr where
  | emptyRateLimit
  | emptyProfile (vendor : String)
  | subAttrTooLong (vendorID : UInt32) (subType : UInt8) (length : ℕ)
  | vsaTooLong (vendorID : UInt32)
  | rateFormat (s : String)
  | emptyToken
  | parseToken (tok : List Char)
  | tokenOverflow (tok : List Char)
  deriving DecidableEq

/-! ### Bytes -/

/-- The UTF-8 of a text. -/
def octets (s : String) : List UInt8 := s.toUTF8.data.toList

def uint32BE (v : UInt32) : List UInt8 :=
  [(v >>> 24).toUInt8, (v >>> 16).toUInt8, (v >>> 8).toUInt8, v.toUInt8]

variable (vendorID : UInt32) (value : List UInt8)

/-- `radius.NewVendorSpecific`: with the vendor's number in front the value must still fit. -/
def NewVendorSpecific : Except BuildErr (List UInt8) :=
  if 249 < value.length then .error (.vsaTooLong vendorID) else .ok (uint32BE vendorID ++ value)

/-- Attribute 26. -/
def vendorSpecific : Except BuildErr Attr := do
  return ⟨26, ← NewVendorSpecific vendorID value⟩

/-- One sub-attribute inside a Vendor-Specific attribute. -/
def buildVendorSubAttr (vendorID : UInt32) (subType : UInt8) (value : List UInt8) :
    Except BuildErr Attr :=
  if 255 < 2 + value.length then .error (.subAttrTooLong vendorID subType value.length)
  else vendorSpecific vendorID (subType :: UInt8.ofNat (2 + value.length) :: value)

/-! ### Rate strings -/

/-- The suffix of a token: its factor, and the digits before it. -/
def rateSuffix (tok : List Char) : ℕ × List Char :=
  match tok.getLast? with
  | some 'k' => (1000, tok.dropLast)
  | some 'K' => (1000, tok.dropLast)
  | some 'm' => (1000000, tok.dropLast)
  | some 'M' => (1000000, tok.dropLast)
  | some 'g' => (1000000000, tok.dropLast)
  | some 'G' => (1000000000, tok.dropLast)
  | _ => (1, tok)

/-- `strconv.ParseUint` in base 10, for 32 bits. -/
def parseUint32 (cs : List Char) : Option ℕ :=
  if cs ≠ [] ∧ cs.all Char.isDigit = true ∧ Nat.ofDigitChars 10 cs 0 < 2 ^ 32 then
    some (Nat.ofDigitChars 10 cs 0)
  else none

def parseRateToken (tok : List Char) : Except BuildErr UInt32 :=
  let tok := trimSpace tok
  if tok = [] then .error .emptyToken
  else
    match parseUint32 (rateSuffix tok).2 with
    | none => .error (.parseToken tok)
    | some n =>
      if 2 ^ 32 ≤ n * (rateSuffix tok).1 then .error (.tokenOverflow tok)
      else .ok (UInt32.ofNat (n * (rateSuffix tok).1))

/-- The two rates of "first/second", in bits per second. -/
def parseRateLimitString (s : String) : Except BuildErr (UInt32 × UInt32) :=
  match s.toList.span (· ≠ '/') with
  | (_, []) => .error (.rateFormat s)
  | (first, _ :: second) => do
    return (← parseRateToken first, ← parseRateToken second)

/-! ### The builders -/

/-- The attributes for an Access-Accept and for a CoA-Request. -/
structure AttributeBuilder where
  BuildAccept : RateProfile → Except BuildErr (List Attr)
  BuildCoA : RateProfile → Except BuildErr (List Attr)

/-- The rate string as it is. The length byte stops at 255. -/
def mikrotikRateLimitAttrs (rateLimit : String) : Except BuildErr (List Attr) :=
  if rateLimit = "" then .error .emptyRateLimit
  else do
    let value := octets rateLimit
    let length : UInt8 := if 2 + value.length ≤ 255 then UInt8.ofNat (2 + value.length) else 255
    return [← vendorSpecific 14988 (8 :: length :: value)]

/-- The two rates as numbers, each in a sub-attribute of its own. -/
def averageRateAttrs (vendorID : UInt32) (inputType outputType : UInt8) (rateLimit : String) :
    Except BuildErr (List Attr) := do
  let (input, output) ← parseRateLimitString rateLimit
  return [← buildVendorSubAttr vendorID inputType (uint32BE input),
    ← buildVendorSubAttr vendorID outputType (uint32BE output)]

def huaweiRateAttrs : String → Except BuildErr (List Attr) := averageRateAttrs 2011 24 25

def zteRateAttrs : String → Except BuildErr (List Attr) := averageRateAttrs 3902 201 202

def buildAVPair (pair : String) : Except BuildErr Attr := buildVendorSubAttr 9 1 (octets pair)

def ciscoAVPairAttrs (profileName : String) : Except BuildErr (List Attr) :=
  if profileName = "" then .error (.emptyProfile "cisco")
  else do
    return [← buildAVPair ("subscriber:sub-qos-policy-in=" ++ profileName),
      ← buildAVPair ("subscriber:sub-qos-policy-out=" ++ profileName)]

/-- Filter-Id, a standard attribute. -/
def juniperFilterAttrs (profileName : String) : Except BuildErr (List Attr) :=
  if profileName = "" then .error (.emptyProfile "juniper")
  else .ok [⟨11, octets profileName⟩]

def wirelessProfileAttrs (vendorName : String) (vendorID : UInt32) (subType : UInt8)
    (profileName : String) : Except BuildErr (List Attr) :=
  if profileName = "" then .error (.emptyProfile vendorName)
  else do return [← buildVendorSubAttr vendorID subType (octets profileName)]

variable (attrs : String → Except BuildErr (List Attr))

/-- A builder that reads the rate. -/
def byRate : AttributeBuilder :=
  ⟨fun p => attrs p.rateLimitString, fun p => attrs p.rateLimitString⟩

/-- A builder that reads the name of the policy. -/
def byProfile : AttributeBuilder :=
  ⟨fun p => attrs p.profileName, fun p => attrs p.profileName⟩

/-- A vendor that is not known is treated as MikroTik. -/
def BuilderFor : Vendor → AttributeBuilder
  | .mikrotik => byRate mikrotikRateLimitAttrs
  | .huawei => byRate huaweiRateAttrs
  | .zte => byRate zteRateAttrs
  | .cisco => byProfile ciscoAVPairAttrs
  | .juniper => byProfile juniperFilterAttrs
  | .ciscoWLC => byProfile (wirelessProfileAttrs "cisco_wlc" 14179 2)
  | .aruba => byProfile (wirelessProfileAttrs "aruba" 14823 1)
  | .ruckus => byProfile (wirelessProfileAttrs "ruckus" 25053 1)
  | .other _ => byRate mikrotikRateLimitAttrs

def BuildAcceptAttrs (vendor : Vendor) (p : RateProfile) : Except BuildErr (List Attr) :=
  (BuilderFor vendor).BuildAccept p

def BuildCoAAttrs (vendor : Vendor) (p : RateProfile) : Except BuildErr (List Attr) :=
  (BuilderFor vendor).BuildCoA p

/-! ### The devices -/

/-- `nas.Device`. -/
structure Device where
  id : ℤ
  ip : String
  vendor : Vendor
  secret : List UInt8
  coaPort : ℕ
  podPort : ℕ
  allowMAB : Bool
  deriving DecidableEq

/-- `nas.Resolver`: the registered devices and the policies the plans map to. -/
structure Resolver where
  byIP : Rows String Device
  planProfiles : Rows (ℤ × Vendor) String
  defaultSecret : List UInt8
  defaultCoAPort : ℕ
  defaultPoDPort : ℕ

/-- An address that is not registered is taken for a MikroTik with the global secret. -/
def Resolver.Resolve (r : Resolver) (ip : String) : Device :=
  (r.byIP.lookup ip).getD ⟨0, ip, .mikrotik, r.defaultSecret, r.defaultCoAPort, r.defaultPoDPort, false⟩

/-- The policy of a plan for a vendor; empty if there is none. -/
def Resolver.ResolveProfile (r : Resolver) (planID : ℤ) (vendor : Vendor) : String :=
  (r.planProfiles.lookup (planID, vendor)).getD ""

/-- The vendor of a device and the policy of a plan on it; without a resolver every device is a
    MikroTik. -/
def profileAt (resolver : Option Resolver) (ip : String) (planID : ℤ) : Vendor × String :=
  match resolver with
  | none => (.mikrotik, "")
  | some r => ((r.Resolve ip).vendor, r.ResolveProfile planID (r.Resolve ip).vendor)

end IspBss.Nas
