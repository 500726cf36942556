import IspBss.Nas.Vendors

/-! EAP and MS-CHAPv2: the messages inside an EAP-Message attribute, and how a response is verified.

        Code │ Identifier │ Length │ Type │ Data                      EAP
                                          └─ OpCode │ ID │ Length │ …   MS-CHAPv2

    A response is verified by computing what a peer with the enrolled hash would have answered:

        peer challenge ‖ our challenge ‖ name ──SHA1──▶ 8 octets ──three DES keys of the hash──▶ 24 octets

    MD4, SHA-1, DES, bcrypt and HMAC are parameters; of the digests only the length is used. -/

namespace IspBss.Radius

open Lib List String Nas

/-! ### Primitives -/

/-- The primitives that are taken for granted. -/
structure Crypto where
  md4 : List UInt8 → { b : List UInt8 // b.length = 16 }
  sha1 : List UInt8 → { b : List UInt8 // b.length = 20 }
  desEncrypt : (key block : List UInt8) → { b : List UInt8 // b.length = 8 }
  compareHashAndPassword : (hash password : String) → Bool
  hmac : (secret message : List UInt8) → List UInt8

/-- Octets in place of a digest: each depends on the whole message, and none hides it. -/
def checksums (n : ℕ) (message : List UInt8) : { b : List UInt8 // b.length = n } :=
  ⟨(List.range n).map fun i => message.foldl (fun sum o => 31 * sum + o) (UInt8.ofNat i),
    by simp⟩

/-- Primitives to compute with. -/
def Crypto.plain : Crypto where
  md4 := checksums 16
  sha1 := checksums 20
  desEncrypt key block := checksums 8 (key ++ block)
  compareHashAndPassword hash password := hash = "$2a$" ++ ofList password.toList.reverse
  hmac secret message := secret ++ message

/-- Two octets, the more significant one first. -/
def putUint16 (n : ℕ) : List UInt8 := [UInt8.ofNat (n / 256), UInt8.ofNat n]

def hexDigit (n : ℕ) : Char := "0123456789abcdef".toList.getD n '0'

/-- `hex.EncodeToString`. -/
def hexEncode (b : List UInt8) : String :=
  ofList (b.flatMap fun o => [hexDigit (o.toNat / 16), hexDigit (o.toNat % 16)])

/-- The text of some octets; where they are not UTF-8 each stands for itself. -/
def goString (b : List UInt8) : String :=
  (fromUTF8? ⟨b.toArray⟩).getD (ofList (b.map fun o => Char.ofNat o.toNat))

/-! ### EAP -/

def EAPCodeRequest : UInt8 := 1
def EAPCodeResponse : UInt8 := 2
def EAPCodeSuccess : UInt8 := 3
def EAPCodeFailure : UInt8 := 4

def EAPTypeIdentity : UInt8 := 1
def EAPTypeMSCHAPv2 : UInt8 := 26

def MSCHAPv2OpChallenge : UInt8 := 1
def MSCHAPv2OpResponse : UInt8 := 2
def MSCHAPv2OpSuccess : UInt8 := 3

inductive EapErr where
  | shortEAP
  | lengthMismatch (declared actual : ℕ)
  | responseTooShort (n : ℕ)
  | expectedResponse (opcode : UInt8)
  | valueSize (n : ℕ)
  | valueMissing (declared actual : ℕ)
  deriving DecidableEq

/-- A decoded EAP message. -/
structure EAPPacket where
  code : UInt8
  identifier : UInt8
  typ : UInt8
  data : List UInt8
  deriving DecidableEq

/-- The declared length must be the real one. Success and Failure have no type. -/
def ParseEAP (b : List UInt8) : Except EapErr EAPPacket :=
  match b with
  | code :: identifier :: hi :: lo :: rest =>
    if hi.toNat * 256 + lo.toNat ≠ b.length then
      .error (.lengthMismatch (hi.toNat * 256 + lo.toNat) b.length)
    else if code = EAPCodeSuccess ∨ code = EAPCodeFailure then .ok ⟨code, identifier, 0, []⟩
    else
      match rest with
      | [] => .error .shortEAP
      | typ :: data => .ok ⟨code, identifier, typ, data⟩
  | _ => .error .shortEAP

def EAPPacket.Encode (p : EAPPacket) : List UInt8 :=
  if p.code = EAPCodeSuccess ∨ p.code = EAPCodeFailure then [p.code, p.identifier] ++ putUint16 4
  else [p.code, p.identifier] ++ putUint16 (5 + p.data.length) ++ p.typ :: p.data

/-! ### MS-CHAPv2 -/

/-- The sixteen octets a peer has to answer. -/
abbrev Challenge := { b : List UInt8 // b.length = 16 }

structure MSCHAPv2Challenge where
  mschapv2ID : UInt8
  challenge : Challenge
  name : String

def MSCHAPv2Challenge.Encode (c : MSCHAPv2Challenge) : List UInt8 :=
  [MSCHAPv2OpChallenge, c.mschapv2ID] ++ putUint16 (5 + c.challenge.1.length + (octets c.name).length) ++
    UInt8.ofNat c.challenge.1.length :: c.challenge.1 ++ octets c.name

structure MSCHAPv2Response where
  mschapv2ID : UInt8
  peerChallenge : List UInt8
  ntResponse : List UInt8
  flags : UInt8
  name : List UInt8
  deriving DecidableEq

/-- The value has 49 octets: 16 of challenge, 8 reserved, 24 of response, and the flags. -/
def ParseMSCHAPv2Response (data : List UInt8) : Except EapErr MSCHAPv2Response :=
  match data with
  | opcode :: mschapv2ID :: _ :: _ :: valueSize :: rest =>
    if opcode ≠ MSCHAPv2OpResponse then .error (.expectedResponse opcode)
    else if valueSize.toNat ≠ 49 then .error (.valueSize valueSize.toNat)
    else if rest.length < 49 then .error (.valueMissing valueSize.toNat rest.length)
    else
      .ok { mschapv2ID := mschapv2ID, peerChallenge := rest.take 16,
            ntResponse := (rest.drop 24).take 24, flags := rest.getD 48 0, name := rest.drop 49 }
  | _ => .error (.responseTooShort data.length)

/-- What is parsed has the lengths that the verification asks for. -/
theorem ParseMSCHAPv2Response_lengths {data : List UInt8} {resp : MSCHAPv2Response}
    (h : ParseMSCHAPv2Response data = .ok resp) : resp.peerChallenge.length = 16 ∧ resp.ntResponse.length = 24 := by
  unfold ParseMSCHAPv2Response at h
  split at h
  · split at h
    · cases h
    split at h
    · cases h
    split at h
    · cases h
    · rename_i hlong
      cases h
      simp only [length_take, length_drop]
      omega
  · cases h

def EncodeMSCHAPv2Success (mschapv2ID : UInt8) (authenticatorResponse : String) : List UInt8 :=
  [MSCHAPv2OpSuccess, mschapv2ID] ++ putUint16 (4 + (octets authenticatorResponse).length) ++
    octets authenticatorResponse

/-! ### Verification -/

inductive MschapErr where
  | noNTHash
  | badNTResponse
  | challengeLength
  | ntHashLength
  | ntResponseLength
  deriving DecidableEq

/-- Seven octets of key, with a parity bit after every seven bits. -/
def desKeyFromSeven (k : List UInt8) : List UInt8 :=
  let k7 (i : ℕ) := k.getD i 0
  [k7 0, k7 0 <<< 7 ||| k7 1 >>> 1, k7 1 <<< 6 ||| k7 2 >>> 2, k7 2 <<< 5 ||| k7 3 >>> 3,
    k7 3 <<< 4 ||| k7 4 >>> 4, k7 4 <<< 3 ||| k7 5 >>> 5, k7 5 <<< 2 ||| k7 6 >>> 6, k7 6 <<< 1]

/-- The first eight octets of the digest of both challenges and the name. -/
def challengeHash (K : Crypto) (peerChallenge authenticatorChallenge : List UInt8) (username : String) :
    List UInt8 :=
  (K.sha1 (peerChallenge ++ authenticatorChallenge ++ octets username)).1.take 8

/-- The challenge under three keys cut from the hash. -/
def challengeResponse (K : Crypto) (challenge ntHash : List UInt8) : Except MschapErr (List UInt8) :=
  if challenge.length ≠ 8 then .error .challengeLength
  else if ntHash.length ≠ 16 then .error .ntHashLength
  else
    let padded := ntHash ++ replicate 5 0
    .ok ([0, 1, 2].flatMap fun i =>
      (K.desEncrypt (desKeyFromSeven ((padded.drop (i * 7)).take 7)) challenge).1)

def GenerateNTResponse (K : Crypto) (authenticatorChallenge peerChallenge : List UInt8)
    (username : String) (ntHash : List UInt8) : Except MschapErr (List UInt8) :=
  if authenticatorChallenge.length ≠ 16 ∨ peerChallenge.length ≠ 16 then .error .challengeLength
  else challengeResponse K (challengeHash K peerChallenge authenticatorChallenge username) ntHash

def magic1 : String := "Magic server to client signing constant"
def magic2 : String := "Pad to make it do more than one iteration"

/-- What the server answers, so that the peer can tell that it knows the hash too. -/
def GenerateAuthenticatorResponse (K : Crypto) (ntHash ntResponse peerChallenge
    authenticatorChallenge : List UInt8) (username : String) : Except MschapErr String :=
  if ntResponse.length ≠ 24 then .error .ntResponseLength
  else if ntHash.length ≠ 16 then .error .ntHashLength
  else
    let digest := (K.sha1 ((K.md4 ntHash).1 ++ ntResponse ++ octets magic1)).1
    let chHash := challengeHash K peerChallenge authenticatorChallenge username
    .ok ("S=" ++ (hexEncode (K.sha1 (digest ++ chHash ++ octets magic2)).1).toUpper)

/-- The response is the one that the hash gives, or the verification fails. -/
def VerifyMSCHAPv2 (K : Crypto) (ntHash authenticatorChallenge peerChallenge ntResponse : List UInt8)
    (username : String) : Except MschapErr String :=
  if ntHash = [] then .error .noNTHash
  else
    match GenerateNTResponse K authenticatorChallenge peerChallenge username ntHash with
    | .error err => .error err
    | .ok expected =>
      if expected ≠ ntResponse then .error .badNTResponse
      else GenerateAuthenticatorResponse K ntHash ntResponse peerChallenge authenticatorChallenge username

/-- With values of the right length, what fails is that nobody is enrolled or that the response is
    wrong. -/
theorem VerifyMSCHAPv2_error {K : Crypto} {ntHash peerChallenge ntResponse : List UInt8}
    {challenge : Challenge} {username : String} {err : MschapErr}
    (hhash : ntHash = [] ∨ ntHash.length = 16) (hpeer : peerChallenge.length = 16)
    (hresponse : ntResponse.length = 24)
    (h : VerifyMSCHAPv2 K ntHash challenge.1 peerChallenge ntResponse username = .error err) :
    (ntHash = [] ∧ err = .noNTHash) ∨ err = .badNTResponse := by
  unfold VerifyMSCHAPv2 at h
  split at h
  · rename_i hnone
    cases h
    exact Or.inl ⟨hnone, rfl⟩
  rename_i hsome
  have hlen : ntHash.length = 16 := hhash.resolve_left hsome
  have hshort : (challengeHash K peerChallenge challenge.1 username).length = 8 := by
    have hsha := (K.sha1 (peerChallenge ++ challenge.1 ++ octets username)).2
    rw [challengeHash, length_take, hsha]
    rfl
  simp only [GenerateNTResponse, challenge.2, hpeer, challengeResponse, hshort, hlen, ne_eq,
    not_true_eq_false, or_self, if_false] at h
  split at h
  · cases h
    exact Or.inr rfl
  · simp only [GenerateAuthenticatorResponse, hresponse, hlen, ne_eq, not_true_eq_false, if_false] at h
    cases h

/-! ### Names -/

/-- A "DOMAIN\" in front of a name is dropped. -/
def StripDomain (username : String) : String :=
  ofList (username.toList.reverse.takeWhile (· ≠ '\\')).reverse

end IspBss.Radius
