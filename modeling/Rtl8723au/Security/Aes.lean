import Rtl8723au.Library.Ccm

/-! The AES-128 block encryption of `core/rtw_security.c`, `aes128k128d` and the
functions it is built from, on 16-byte vectors. -/
namespace Rtl8723au.Security
open Ccm
set_option autoImplicit false

/-- A 128-bit key, `skey` of `union Keytype`. -/
abbrev Skey := Vector UInt8 16

def sboxTable : Array UInt8 :=
  #[0x63, 0x7c, 0x77, 0x7b, 0xf2, 0x6b, 0x6f, 0xc5, 0x30, 0x01, 0x67, 0x2b, 0xfe, 0xd7, 0xab, 0x76,
    0xca, 0x82, 0xc9, 0x7d, 0xfa, 0x59, 0x47, 0xf0, 0xad, 0xd4, 0xa2, 0xaf, 0x9c, 0xa4, 0x72, 0xc0,
    0xb7, 0xfd, 0x93, 0x26, 0x36, 0x3f, 0xf7, 0xcc, 0x34, 0xa5, 0xe5, 0xf1, 0x71, 0xd8, 0x31, 0x15,
    0x04, 0xc7, 0x23, 0xc3, 0x18, 0x96, 0x05, 0x9a, 0x07, 0x12, 0x80, 0xe2, 0xeb, 0x27, 0xb2, 0x75,
    0x09, 0x83, 0x2c, 0x1a, 0x1b, 0x6e, 0x5a, 0xa0, 0x52, 0x3b, 0xd6, 0xb3, 0x29, 0xe3, 0x2f, 0x84,
    0x53, 0xd1, 0x00, 0xed, 0x20, 0xfc, 0xb1, 0x5b, 0x6a, 0xcb, 0xbe, 0x39, 0x4a, 0x4c, 0x58, 0xcf,
    0xd0, 0xef, 0xaa, 0xfb, 0x43, 0x4d, 0x33, 0x85, 0x45, 0xf9, 0x02, 0x7f, 0x50, 0x3c, 0x9f, 0xa8,
    0x51, 0xa3, 0x40, 0x8f, 0x92, 0x9d, 0x38, 0xf5, 0xbc, 0xb6, 0xda, 0x21, 0x10, 0xff, 0xf3, 0xd2,
    0xcd, 0x0c, 0x13, 0xec, 0x5f, 0x97, 0x44, 0x17, 0xc4, 0xa7, 0x7e, 0x3d, 0x64, 0x5d, 0x19, 0x73,
    0x60, 0x81, 0x4f, 0xdc, 0x22, 0x2a, 0x90, 0x88, 0x46, 0xee, 0xb8, 0x14, 0xde, 0x5e, 0x0b, 0xdb,
    0xe0, 0x32, 0x3a, 0x0a, 0x49, 0x06, 0x24, 0x5c, 0xc2, 0xd3, 0xac, 0x62, 0x91, 0x95, 0xe4, 0x79,
    0xe7, 0xc8, 0x37, 0x6d, 0x8d, 0xd5, 0x4e, 0xa9, 0x6c, 0x56, 0xf4, 0xea, 0x65, 0x7a, 0xae, 0x08,
    0xba, 0x78, 0x25, 0x2e, 0x1c, 0xa6, 0xb4, 0xc6, 0xe8, 0xdd, 0x74, 0x1f, 0x4b, 0xbd, 0x8b, 0x8a,
    0x70, 0x3e, 0xb5, 0x66, 0x48, 0x03, 0xf6, 0x0e, 0x61, 0x35, 0x57, 0xb9, 0x86, 0xc1, 0x1d, 0x9e,
    0xe1, 0xf8, 0x98, 0x11, 0x69, 0xd9, 0x8e, 0x94, 0x9b, 0x1e, 0x87, 0xe9, 0xce, 0x55, 0x28, 0xdf,
    0x8c, 0xa1, 0x89, 0x0d, 0xbf, 0xe6, 0x42, 0x68, 0x41, 0x99, 0x2d, 0x0f, 0xb0, 0x54, 0xbb, 0x16]

def rconTable : Array UInt8 :=
  #[0x01, 0x02, 0x04, 0x08, 0x10, 0x20, 0x40, 0x80, 0x1b, 0x36, 0x36, 0x36]

def xor128 (a b : Block) : Block := xorBlock a b

def xor32 (a b : Vector UInt8 4) : Vector UInt8 4 := Vector.zipWith (· ^^^ ·) a b

def sbox (a : UInt8) : UInt8 := sboxTable.getD a.toNat 0

-- the literals of a word's number
instance neZero_words : NeZero 4 := ⟨by decide⟩

/-- `&b[4 * i]`, read as four bytes. -/
def word (b : Block) (i : Fin 4) : Vector UInt8 4 := Vector.ofFn fun j => b[4 * (i : ℕ) + j]

def nextKey (key : Block) (round : ℕ) : Block :=
  let sboxKey : Vector UInt8 4 := #v[sbox key[13], sbox key[14], sbox key[15], sbox key[12]]
  let rcon := rconTable.getD round 0
  let k0 := xor32 (word key 0) sboxKey
  let k0 := k0.set 0 (k0[0] ^^^ rcon)
  let k1 := xor32 (word key 1) k0
  let k2 := xor32 (word key 2) k1
  let k3 := xor32 (word key 3) k2
  k0 ++ k1 ++ k2 ++ k3

def byteSub (b : Block) : Block := b.map sbox

def shiftRow (b : Block) : Block :=
  #v[b[0], b[5], b[10], b[15], b[4], b[9], b[14], b[3], b[8], b[13], b[2], b[7], b[12], b[1], b[6], b[11]]

/-- `andf7[i] << 1` with the top bit of the byte below carried in. -/
def shiftIn (a below : UInt8) : UInt8 :=
  if below &&& 0x80 = 0x80 then (a <<< 1) ||| 0x01 else a <<< 1

def mixColumn (b : Vector UInt8 4) : Vector UInt8 4 :=
  let add1b := b.map fun x => if x &&& 0x80 = 0x80 then (0x1b : UInt8) else 0x00
  let swapHalfs : Vector UInt8 4 := #v[b[2], b[3], b[0], b[1]]
  let rotl : Vector UInt8 4 := #v[b[3], b[0], b[1], b[2]]
  let andf7 := b.map (· &&& 0x7f)
  -- the loop runs from 3 down to 1, so each byte still sees the one below unshifted
  let andf7 : Vector UInt8 4 := #v[(andf7[0] <<< 1) &&& 0xfe, shiftIn andf7[1] andf7[0],
    shiftIn andf7[2] andf7[1], shiftIn andf7[3] andf7[2]]
  let add1bf7 := xor32 add1b andf7
  let rotr := xor32 b add1bf7
  let rotr : Vector UInt8 4 := #v[rotr[1], rotr[2], rotr[3], rotr[0]]
  let temp := xor32 add1bf7 rotr
  let tempb := xor32 swapHalfs rotl
  xor32 temp tempb

/-- One turn of the round loop on the round key and the cipher text so far. -/
def aesRound (data : Block) (s : Block × Block) (round : ℕ) : Block × Block :=
  let (roundKey, ciphertext) := s
  if round = 0 then
    (nextKey roundKey round, xor128 roundKey data)
  else if round = 10 then
    (roundKey, xor128 (shiftRow (byteSub ciphertext)) roundKey)
  else
    let b := shiftRow (byteSub ciphertext)
    let a := mixColumn (word b 0) ++ mixColumn (word b 1) ++ mixColumn (word b 2) ++ mixColumn (word b 3)
    (nextKey roundKey round, xor128 a roundKey)

def aes128k128d (key : Skey) (data : Block) : Block :=
  ((List.range 11).foldl (aesRound data) (key, zeroBlock)).2

-- the AES-128 example vector: key 00 01 .. 0f, plain text 00 11 .. ff
example : aes128k128d (Vector.ofFn fun i => UInt8.ofNat i) (Vector.ofFn fun i => UInt8.ofNat (17 * i)) =
    #v[0x69, 0xc4, 0xe0, 0xd8, 0x6a, 0x7b, 0x04, 0x30, 0xd8, 0xcd, 0xb7, 0x80, 0x70, 0xb4, 0xc5, 0x5a] := by
  decide +kernel

-- the modes of operation never look inside the block function
attribute [irreducible] aes128k128d

end Rtl8723au.Security
