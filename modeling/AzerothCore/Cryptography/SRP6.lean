import AzerothCore.Network.Buffers
import Mathlib.Data.Int.ModEq

/-!
# Big numbers and their bytes

A big number that is not negative is a natural number. Its array of bytes has a
fixed size, the least significant byte first.
-/

namespace AzerothCore.Cryptography

open Network

/-- `std::array<uint8, Size>`. -/
abbrev Bytes (size : ℕ) := Vector UInt8 size

namespace BigNumber

/-- `SetBinary`. -/
def ofBytes (bytes : List UInt8) : ℕ := ClientPktHeader.littleEndian bytes

def ModExp (base exponent modulus : ℕ) : ℕ := base ^ exponent % modulus

/-- The bytes of a number; `none` is the failed assertion that it fits. -/
def ToByteArray (size value : ℕ) : Option (Bytes size) :=
  if value < 256 ^ size then
    some ⟨(bytesOf size value).toArray, by rw [List.size_toArray, length_bytesOf]⟩
  else
    none

theorem ToByteArray_of_lt {size value : ℕ} (hlt : value < 256 ^ size) :
    ∃ bytes, ToByteArray size value = some bytes ∧ ofBytes bytes.toList = value := by
  refine ⟨_, if_pos hlt, ?_⟩
  change ClientPktHeader.littleEndian (bytesOf size value) = value
  rw [littleEndian_bytesOf, Nat.mod_eq_of_lt hlt]

theorem ModExp_modEq (base exponent modulus : ℕ) :
    ((ModExp base exponent modulus : ℕ) : ℤ) ≡ (base : ℤ) ^ exponent [ZMOD modulus] := by
  rw [ModExp, Int.natCast_mod, Int.natCast_pow]
  exact Int.mod_modEq _ _

end BigNumber

/-- What the two sides of an exchange raise to their secrets is the same: the
server's public number is `multiplier` times the verifier and its own power. -/
theorem shared_secret {R : Type*} [CommRing R] (generator multiplier : R)
    (client server password scramble : ℕ) :
    (multiplier * generator ^ password + generator ^ server - multiplier * generator ^ password)
        ^ (client + scramble * password)
      = (generator ^ client * (generator ^ password) ^ scramble) ^ server := by
  calc (multiplier * generator ^ password + generator ^ server - multiplier * generator ^ password)
          ^ (client + scramble * password)
      = (generator ^ server) ^ (client + scramble * password) := by
        rw [add_sub_cancel_left]
    _ = (generator ^ (client + scramble * password)) ^ server := by
        rw [← pow_mul, ← pow_mul, Nat.mul_comm]
    _ = (generator ^ client * (generator ^ password) ^ scramble) ^ server := by
        rw [pow_add, ← pow_mul, Nat.mul_comm scramble]

end AzerothCore.Cryptography

/-!
## The password proof of a login

The server keeps a verifier of the password. It sends the number `B` and
accepts a client that shows with `M` that it has come to the same session key.
-/

namespace AzerothCore.Cryptography

open BigNumber

abbrev Hash := List UInt8 → Bytes 20

namespace SRP6

def g : ℕ := 7

def N : ℕ := 0x894B645E89E1535BBDAD5B8B290650530801B18EBFBF5E8FAB3C82872A3E9BB7

/-- The bytes of `g`. -/
def gBytes : Bytes 1 := #v[7]

/-- The hexadecimal digits of `N` as bytes, the last two digits first. -/
def NBytes : Bytes 32 :=
  #v[0xB7, 0x9B, 0x3E, 0x2A, 0x87, 0x82, 0x3C, 0xAB, 0x8F, 0x5E, 0xBF, 0xBF, 0x8E, 0xB1, 0x01, 0x08,
    0x53, 0x50, 0x06, 0x29, 0x8B, 0x5B, 0xAD, 0xBD, 0x5B, 0x53, 0xE1, 0x89, 0x5E, 0x64, 0x4B, 0x89]

example : ofBytes NBytes.toList = N := by decide +kernel

variable (SHA1 : Hash)

/-- The number `x` of a password. -/
def passwordHash (username password : List UInt8) (salt : Bytes 32) : ℕ :=
  ofBytes (SHA1 (salt.toList ++ (SHA1 (username ++ [58] ++ password)).toList)).toList

def CalculateVerifier (username password : List UInt8) (salt : Bytes 32) : Option (Bytes 32) :=
  ToByteArray 32 (ModExp g (passwordHash SHA1 username password salt) N)

/-- The halves are hashed from the pair in which the first byte that is not zero
stands, or the pair after it. -/
def SHA1Interleave (S : Bytes 32) : Bytes 40 :=
  let buf0 : List UInt8 := List.ofFn fun i : Fin 16 => S[2 * i.val]
  let buf1 : List UInt8 := List.ofFn fun i : Fin 16 => S[2 * i.val + 1]
  let p := (S.toList.takeWhile fun byte => byte = 0).length
  let p := if p % 2 = 1 then p + 1 else p
  let hash0 := SHA1 (buf0.drop (p / 2))
  let hash1 := SHA1 (buf1.drop (p / 2))
  Vector.ofFn fun i : Fin 40 => if i.val % 2 = 0 then hash0[i.val / 2] else hash1[i.val / 2]

/-- The proof of the key `K`, which both sides compute. -/
def proofOf (_I : Bytes 20) (s A B : Bytes 32) (K : Bytes 40) : Bytes 20 :=
  let NgHash := Vector.zipWith (· ^^^ ·) (SHA1 NBytes.toList) (SHA1 gBytes.toList)
  SHA1 (NgHash.toList ++ _I.toList ++ s.toList ++ A.toList ++ B.toList ++ K.toList)

end SRP6

structure SRP6 where
  _used : Bool
  _I : Bytes 20
  _b : ℕ
  _v : ℕ
  s : Bytes 32
  B : Bytes 32

namespace SRP6

variable (SHA1 : Hash)

/-- The number `B` for the secret `b` and the verifier `v`. -/
def _B (b v : ℕ) : Option (Bytes 32) := ToByteArray 32 ((ModExp g b N + v * 3) % N)

def new (username : List UInt8) (salt verifier b : Bytes 32) : Option SRP6 :=
  let _b := ofBytes b.toList
  let _v := ofBytes verifier.toList
  match _B _b _v with
  | none => none
  | some B => some ⟨false, SHA1 username, _b, _v, salt, B⟩

/-- `none` is a failed assertion; the session key comes with the object, which
is used. -/
def VerifyChallengeResponse (srp6 : SRP6) (A : Bytes 32) (clientM : Bytes 20) :
    Option (Option (Bytes 40) × SRP6) :=
  if srp6._used then
    none
  else
    let srp6 := { srp6 with _used := true }
    let _A := ofBytes A.toList
    if _A % N = 0 then
      some (none, srp6)
    else
      let u := ofBytes (SHA1 (A.toList ++ srp6.B.toList)).toList
      match ToByteArray 32 (ModExp (_A * ModExp srp6._v u N) srp6._b N) with
      | none => none
      | some S =>
        let K := SHA1Interleave SHA1 S
        let ourM := proofOf SHA1 srp6._I srp6.s A srp6.B K
        if ourM = clientM then some (some K, srp6) else some (none, srp6)

end SRP6

end AzerothCore.Cryptography

/-!
## Client and server agree on the session key

A client that knows the password computes the number that the server computes
from the verifier, so that both have one session key and its proof is accepted.
-/

namespace AzerothCore.Cryptography

open BigNumber Nat

structure Client where
  username : List UInt8
  password : List UInt8
  a : ℕ

namespace Client

variable (SHA1 : Hash) (client : Client)

def A : ℕ := SRP6.g ^ client.a % SRP6.N

def sharedNumber (salt A B : Bytes 32) : ℕ :=
  let x := SRP6.passwordHash SHA1 client.username client.password salt
  let u := ofBytes (SHA1 (A.toList ++ B.toList)).toList
  ((((ofBytes B.toList : ℤ) - 3 * (SRP6.g : ℤ) ^ x) ^ (client.a + u * x)) % (SRP6.N : ℤ)).toNat

def respond (salt A B : Bytes 32) : Option (Bytes 40 × Bytes 20) :=
  match ToByteArray 32 (client.sharedNumber SHA1 salt A B) with
  | none => none
  | some S =>
    let K := SRP6.SHA1Interleave SHA1 S
    some (K, SRP6.proofOf SHA1 (SHA1 client.username) salt A B K)

end Client

namespace SRP6

variable (SHA1 : Hash)

theorem N_pos : 0 < N := by decide

theorem N_lt : N < 256 ^ 32 := by decide +kernel

theorem fits_of_mod (value : ℕ) : value % N < 256 ^ 32 := lt_trans (mod_lt value N_pos) N_lt

theorem CalculateVerifier_spec (username password : List UInt8) (salt : Bytes 32) :
    ∃ verifier, CalculateVerifier SHA1 username password salt = some verifier ∧
      ofBytes verifier.toList = ModExp g (passwordHash SHA1 username password salt) N :=
  ToByteArray_of_lt (fits_of_mod _)

theorem new_spec (username : List UInt8) (salt verifier b : Bytes 32) :
    ∃ srp6, new SHA1 username salt verifier b = some srp6 ∧ srp6._used = false ∧
      srp6._I = SHA1 username ∧ srp6.s = salt ∧ srp6._b = ofBytes b.toList ∧
      srp6._v = ofBytes verifier.toList ∧
      ofBytes srp6.B.toList = (ModExp g srp6._b N + srp6._v * 3) % N := by
  obtain ⟨B, hB, hvalue⟩ := ToByteArray_of_lt
    (fits_of_mod (ModExp g (ofBytes b.toList) N + ofBytes verifier.toList * 3))
  unfold new
  dsimp only
  rw [_B, hB]
  exact ⟨_, rfl, rfl, rfl, rfl, rfl, rfl, hvalue⟩

theorem sharedNumber_eq (client : Client) (salt : Bytes 32) {srp6 : SRP6} {A : Bytes 32}
    (hA : ofBytes A.toList = client.A)
    (hv : srp6._v = ModExp g (passwordHash SHA1 client.username client.password salt) N)
    (hB : ofBytes srp6.B.toList = (ModExp g srp6._b N + srp6._v * 3) % N) :
    client.sharedNumber SHA1 salt A srp6.B
      = ModExp (ofBytes A.toList * ModExp srp6._v
          (ofBytes (SHA1 (A.toList ++ srp6.B.toList)).toList) N) srp6._b N := by
  unfold Client.sharedNumber
  dsimp only
  generalize ofBytes (SHA1 (A.toList ++ srp6.B.toList)).toList = u
  generalize hx : passwordHash SHA1 client.username client.password salt = x at hv
  have hverifier : (srp6._v : ℤ) ≡ (g : ℤ) ^ x [ZMOD N] := hv ▸ ModExp_modEq g x N
  have hpublic : (ofBytes srp6.B.toList : ℤ) ≡ 3 * (g : ℤ) ^ x + (g : ℤ) ^ srp6._b [ZMOD N] := by
    rw [hB, Int.natCast_mod]
    refine (Int.mod_modEq _ _).trans ?_
    rw [Int.natCast_add, Int.natCast_mul, add_comm, mul_comm]
    exact (Int.ModEq.mul_left 3 hverifier).add (ModExp_modEq g srp6._b N)
  have hclient : (client.A : ℤ) ≡ (g : ℤ) ^ client.a [ZMOD N] := ModExp_modEq g client.a N
  have hshared : ((ofBytes srp6.B.toList : ℤ) - 3 * (g : ℤ) ^ x) ^ (client.a + u * x)
      ≡ ((client.A : ℤ) * (ModExp srp6._v u N : ℕ)) ^ srp6._b [ZMOD N] := by
    calc ((ofBytes srp6.B.toList : ℤ) - 3 * (g : ℤ) ^ x) ^ (client.a + u * x)
        ≡ (3 * (g : ℤ) ^ x + (g : ℤ) ^ srp6._b - 3 * (g : ℤ) ^ x) ^ (client.a + u * x)
          [ZMOD N] := (hpublic.sub_right _).pow _
      _ = ((g : ℤ) ^ client.a * ((g : ℤ) ^ x) ^ u) ^ srp6._b := shared_secret _ _ _ _ _ _
      _ ≡ ((client.A : ℤ) * (ModExp srp6._v u N : ℕ)) ^ srp6._b [ZMOD N] := by
        refine Int.ModEq.pow _ (hclient.symm.mul ?_)
        exact (hverifier.symm.pow u).trans (ModExp_modEq srp6._v u N).symm
  rw [hA, hshared.eq, ModExp, ← Int.natCast_mul, ← Int.natCast_pow, ← Int.natCast_mod,
    Int.toNat_natCast]
  rfl

/-- A client that knows the password is accepted with its session key, and a
public number that is zero modulo `N` is rejected with any proof. -/
theorem client_and_server_agree (SHA1 : Hash) :
    (∀ (client : Client) (salt b : Bytes 32), ¬ N ∣ client.A → ∃ verifier srp6 A K M used,
        CalculateVerifier SHA1 client.username client.password salt = some verifier ∧
        new SHA1 client.username salt verifier b = some srp6 ∧
        ToByteArray 32 client.A = some A ∧
        client.respond SHA1 salt A srp6.B = some (K, M) ∧
        srp6.VerifyChallengeResponse SHA1 A M = some (some K, used)) ∧
    ∀ (srp6 : SRP6) (A : Bytes 32) (clientM : Bytes 20), srp6._used = false → N ∣ ofBytes A.toList →
      ∃ used, srp6.VerifyChallengeResponse SHA1 A clientM = some (none, used) := by
  refine ⟨?_, ?_⟩
  · intro client salt b hclient
    obtain ⟨verifier, hverifier, hv⟩ :=
      CalculateVerifier_spec SHA1 client.username client.password salt
    obtain ⟨srp6, hnew, hunused, hI, hsalt, _, hsrp6, hB⟩ :=
      new_spec SHA1 client.username salt verifier b
    obtain ⟨A, hbytes, hA⟩ := ToByteArray_of_lt (fits_of_mod (g ^ client.a))
    have hshared := sharedNumber_eq SHA1 client salt hA (hsrp6.trans hv) hB
    obtain ⟨S, hS, _⟩ := ToByteArray_of_lt (fits_of_mod
      ((ofBytes A.toList * ModExp srp6._v
        (ofBytes (SHA1 (A.toList ++ srp6.B.toList)).toList) N) ^ srp6._b))
    refine ⟨verifier, srp6, A, SHA1Interleave SHA1 S,
      proofOf SHA1 (SHA1 client.username) salt A srp6.B (SHA1Interleave SHA1 S),
      { srp6 with _used := true }, hverifier, hnew, hbytes, ?_, ?_⟩
    · unfold Client.respond
      rw [hshared, ModExp, hS]
    · have hnonzero : ¬ ofBytes A.toList % N = 0 := by
        rw [hA]
        exact fun hzero => hclient (dvd_of_mod_eq_zero hzero)
      unfold VerifyChallengeResponse
      rw [if_neg (by rw [hunused]; exact Bool.false_ne_true)]
      dsimp only
      rw [if_neg hnonzero, ModExp, hS]
      dsimp only
      rw [hI, hsalt, if_pos rfl]
  · intro srp6 A clientM hunused hzero
    unfold VerifyChallengeResponse
    rw [if_neg (by rw [hunused]; exact Bool.false_ne_true)]
    rw [if_pos (mod_eq_zero_of_dvd hzero)]
    exact ⟨_, rfl⟩

def constantHash : Hash := fun _ => Vector.replicate 20 1

/-- The client `A` with the password `A` and the secret 1; and the public number
zero. -/
theorem a_client_is_accepted : (∃ verifier srp6 A K M used,
      CalculateVerifier constantHash [65] [65] (Vector.replicate 32 0) = some verifier ∧
      new constantHash [65] (Vector.replicate 32 0) verifier (Vector.replicate 32 3) = some srp6 ∧
      ToByteArray 32 (Client.mk [65] [65] 1).A = some A ∧
      (Client.mk [65] [65] 1).respond constantHash (Vector.replicate 32 0) A srp6.B = some (K, M) ∧
      srp6.VerifyChallengeResponse constantHash A M = some (some K, used)) ∧
    ∃ used, SRP6.VerifyChallengeResponse constantHash
      ⟨false, Vector.replicate 20 1, 3, 7, Vector.replicate 32 0, Vector.replicate 32 5⟩
      (Vector.replicate 32 0) (Vector.replicate 20 1) = some (none, used) :=
  ⟨(client_and_server_agree constantHash).1 (Client.mk [65] [65] 1) (Vector.replicate 32 0)
      (Vector.replicate 32 3) (by decide +kernel),
    (client_and_server_agree constantHash).2 _ (Vector.replicate 32 0) (Vector.replicate 20 1)
      rfl (by decide +kernel)⟩

end SRP6

end AzerothCore.Cryptography
