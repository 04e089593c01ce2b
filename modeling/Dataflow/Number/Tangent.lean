import Dataflow.Number.Exact
/-!
# The hyperbolic tangent of the vectorised loops

The array library computes `tanh` of doubles with a table of polynomials instead of through
exponentials. `|x|` picks one of sixteen intervals by its exponent and first fraction bit
(`tanhInterval`): below `0.1875`, then half binades up to `24`, then everything larger. On each
interval a polynomial of degree sixteen in the distance from the interval's centre gives
`tanh |x|`; it is evaluated by Horner's rule, one fused multiply-add per coefficient, and the
sign of `x` is put back on the result. The last interval's polynomial is the constant one.

Each row of `tanhIntervals` holds the centre and then the seventeen coefficients from the
constant term up, as the bits of doubles.
-/

namespace Dataflow.Number

open Dataflow.Decimal

/-- The centre and the polynomial coefficients (constant term first) of each interval. -/
def tanhIntervals : Array (Array UInt64) := #[
  #[0x0000000000000000, 0x0000000000000000, 0x3FF0000000000000, 0xBBF0B3EA3FDFAA19,
    0xBFD5555555555555, 0xBCE6863EE44ED636, 0x3FC1111111112AB5, 0xBDA1EA19DDDDB3B4,
    0xBFABA1BA1990520B, 0xBE351CA7F096011F, 0x3F9664F94E6AC14E, 0xBEA8C4C1FD7852FE,
    0xBF822404577AA9DD, 0xBEFDD99A221ED573, 0x3F6E3BE689423841, 0xBF2A1306713A4F3A,
    0xBF55D7E76DC56871, 0x3F35E67AB76A26E7],
  #[0x3FCC000000000000, 0x3FCB8FD0416A7C92, 0x3FEE842CA3F08532, 0xBFCA48AAEB53BC21,
    0xBFD183AFC292BA11, 0x3FC04DCD0476C75E, 0x3FB5C19EFDFC08AD, 0xBFB0B8DF995CE4DF,
    0xBF96E37BBA52F6FC, 0x3F9EAAF3320C3851, 0xBF94D3343BAE39DD, 0xBFCCCE16B1046F13,
    0x403D8B07F7A82AA3, 0x4070593A3735BAB4, 0xC0D263511F5BAAC1, 0xC1045E509116B066,
    0x41528C38809C90C7, 0x41848EE0627D8206],
  #[0x3FD4000000000000, 0x3FD35F98A0EA650E, 0x3FED11574AF58F1B, 0xBFD19921F4329916,
    0xBFCC1A4B039C9BFA, 0x3FC43D3449A80F08, 0x3FA74C98DC34FBAC, 0xBFB2955CF41E8164,
    0x3ECFF7DF18455399, 0x3F9CF823FE761FC1, 0xBF7BC748E60DF843, 0xBF81A16F224BB7B6,
    0xBF9F44AB92FBAB0A, 0xBFCCAB654E44835E, 0x40169F73B15EBE5C, 0x4041FAB9250984CE,
    0xC076D57FB5190B02, 0xC0A216D618B489EC],
  #[0x3FDC000000000000, 0x3FDA5729EE488037, 0x3FEA945B9C24E4F9, 0xBFD5E0F09BEF8011,
    0xBFC16E1E6D8D0BE6, 0x3FC5C26F3699B7E7, 0xBF790D6A8EFF0A77, 0xBFAF9D05C309F7C6,
    0x3F97362834D33A4E, 0x3F9022271754FF1F, 0xBF8C89372B43BA85, 0xBF62CBF00406BC09,
    0x3FB2EAC604473D6A, 0x3FD13ED80037DBAC, 0xC025C1DD41CD6CB5, 0xC0458D090EC3DE95,
    0x4085F09F888F8ADA, 0x40A5B89107C8AF4F],
  #[0x3FE4000000000000, 0x3FE1BF47EABB8F95, 0x3FE6284C3374F815, 0xBFD893B59C35C882,
    0xBF92426C751E48A2, 0x3FC1A686F6AB2533, 0xBFAC3C021789A786, 0xBF987D27CCFF4291,
    0x3F9E7F8380184B45, 0xBF731FE77C9C60AF, 0xBF8129A092DE747A, 0x3F75B29BB02CF69B,
    0x3F45F87D903AAAC8, 0xBF6045B9076CC487, 0xBF58FD89FE05E0D1, 0xBF74949D60113D63,
    0x3FA246332A2FCBA5, 0x3FB69D8374520EDA],
  #[0x3FEC000000000000, 0x3FE686650B8C2015, 0x3FE02500A09F8D6E, 0xBFD6BA7CB7576538,
    0x3FB4F152B2BAD124, 0x3FAF203C316CE730, 0xBFAE2196B7326859, 0x3F8B2CA62572B098,
    0x3F869543E7C420D4, 0xBF84A6046865EC7D, 0x3F60C85B4D538746, 0x3F607DF0F9F90C17,
    0xBF5E104671036300, 0x3F2085EE7E8AC170, 0x3F73F7AF01D5AF7A, 0x3F7C9FD6200D0ADE,
    0xBFB29D851A896FCD, 0xBFBDED519F981716],
  #[0x3FF4000000000000, 0x3FEB2523BB6B2DEE, 0x3FD1F25131E3A8C0, 0xBFCE7291743D7555,
    0x3FBBBA40CBEF72BE, 0xBF89C7A02788557C, 0xBF93A7A011FF8C2A, 0x3F8F1CF6C7F5B00A,
    0xBF7326BD4914222A, 0xBF4CA3F1F2B9192B, 0x3F5BE9392199EC18, 0xBF4B852A6E0758D5,
    0x3F19BC98DDF0F340, 0x3F23524622610430, 0xBF1E40BDEAD17E6B, 0x3F02CD40E0AD0A9F,
    0x3ED9065AE369B212, 0xBEF02D288B5B3371],
  #[0x3FFC000000000000, 0x3FEE1FBF97E33527, 0x3FBD22CA1C24A139, 0xBFBB6D85A01EFB80,
    0x3FB01BA038BE6A3D, 0xBF98157E26E0D541, 0x3F6E4709C7E8430E, 0x3F60379811E43DD5,
    0xBF5FC15B0A9D98FA, 0x3F4C77DEE0AFD227, 0xBF2A0C68A4489F10, 0xBF0078C63D1B8445,
    0x3F0D4304BC9246E8, 0xBEFF12A6626911B4, 0x3EE224CD6C4513E5, 0xBE858AB8E019F311,
    0xBEB8E1BA4C98A030, 0x3EB290981209C1A6],
  #[0x4004000000000000, 0x3FEF9258260A71C2, 0x3F9B3AFE1FBA5C76, 0xBF9ADDAE58C7141A,
    0x3F916DF44871EFC8, 0xBF807B55C1C7D278, 0x3F67682AFA611151, 0xBF4793826F78537E,
    0x3F14CFFCFA69FBB6, 0x3F04055BCE68597A, 0xBF00462601DC2FAA, 0x3EEC12EADD55BE7A,
    0xBED13C415F7B9D41, 0x3EAB9008BCA408AF, 0xBE24B645E68EEAA3, 0xBE792FA6323B7CF8,
    0x3E6FFD0766AD4016, 0xBE567E924BF5FF6E],
  #[0x400C000000000000, 0x3FEFF112C63A9077, 0x3F6DD37D19B22B21, 0xBF6DC59376C7AA19,
    0x3F63C6869DFC8870, 0xBF53A18D5843190F, 0x3F3EF2EE77717CBF, 0xBF2405695E36240F,
    0x3F057E48E5B79D10, 0xBEE2BF0CB4A71647, 0x3EB7B6A219DEA9F4, 0xBE6FA600F593181B,
    0xBE722B8D9720CDB0, 0x3E634DF71865F620, 0xBE4ABFEBFB72BC83, 0x3E2DF04D67876402,
    0xBE0C63C29F505F5B, 0x3DE3F7F7DE6B0EB6],
  #[0x4014000000000000, 0x3FEFFF419668DF11, 0x3F27CCEC13A9EF96, 0xBF27CC5E74677410,
    0x3F1FB9AEF915D828, 0xBF0FB6BBC89B1A5B, 0x3EF95A4482F180B7, 0xBEE0E08DE39CE756,
    0x3EC33B66D7D77264, 0xBEA31EAAFE73EFD5, 0x3E80CBCC8D4C5C8A, 0xBE5A3C935DCE3F7D,
    0x3E322666D739BEC0, 0xBE05BB1BCF83CA73, 0x3DD51C38F8695ED3, 0xBD95C72BE95E4D2C,
    0xBD7FAB216B9E0E49, 0x3D69ED18BAE3EBBC],
  #[0x401C000000000000, 0x3FEFFFFC832750F2, 0x3ECBE6C3F33250AE, 0xBECBE6C0E8B4CC87,
    0x3EC299D1E27C6E11, 0xBEB299C9C684A963, 0x3E9DC2C27DA3B603, 0xBE83D709BA5F714E,
    0x3E66AC4E578B9B10, 0xBE46ABB02C4368ED, 0x3E2425BB231A5E29, 0xBE001C6D95E3AE96,
    0x3DD76A553D7E7918, 0xBDAF2AC143FB6762, 0x3D8313AC38C6832B, 0xBD55A89C30203106,
    0x3D2826B62056AA27, 0xBCF7534C4F3DFA71],
  #[0x4024000000000000, 0x3FEFFFFFFDC96F35, 0x3E41B4865394F75F, 0xBE41B486526B0565,
    0x3E379B5DDCCA334C, 0xBE279B5DD4FB3D01, 0x3E12E2AFD9F7433E, 0xBDF92E3FC5EE63E0,
    0x3DDCC74B8D3D5C42, 0xBDBCC749CA8079DD, 0x3D9992A4BEAC8662, 0xBD74755A00EA1FD3,
    0x3D4DE0FA59416A39, 0xBD23EAE52A3DBF57, 0x3CF7787935626685, 0xBCCAD6B3BB9EFF65,
    0x3CA313E31762F523, 0xBC730B73F1EAFF20],
  #[0x402C000000000000, 0x3FEFFFFFFFFFCF58, 0x3D8853F01BDA5F28, 0xBD8853F01BEF63A4,
    0x3D8037F57BC62C9A, 0xBD7037F57AE72AA6, 0x3D59F320348679BA, 0xBD414CC030F2110E,
    0x3D23C589137F92B4, 0xBD03C5883836B9D2, 0x3CE191BA5ED3FB67, 0xBCBC1C6C063BB7AC,
    0x3C948716CF3681B4, 0xBC6B5E3E9CA0955E, 0x3C401FFC49C6BC29, 0xBC12705CCD3DD884,
    0x3BEA37AA21895319, 0xBBBA2CFF8135D462],
  #[0x4034000000000000, 0x3FF0000000000000, 0x3C73953C0197EF58, 0xBC73955BE519BE31,
    0x3C6A2D4B50A2CFF7, 0xBC5A2CA2BBA78E86, 0x3C44B61D9BBCC940, 0xBC2BA022E8D82A87,
    0x3C107F8E2C8707A1, 0xBBF07A5416264AEC, 0x3BC892450BAD44C4, 0xBBA3BE9A4460FE00,
    0x3B873F9F2D2FDA99, 0xBB5ECA68E2C1BA2E, 0xBABF0B21ACFA52AB, 0xBA8E0A4C47AE75F5,
    0x3AE5C7F1FD871496, 0xBAB5A71B5F7D9035],
  #[0x0000000000000000, 0x3FF0000000000000, 0x0000000000000000, 0x0000000000000000,
    0x0000000000000000, 0x0000000000000000, 0x0000000000000000, 0x0000000000000000,
    0x0000000000000000, 0x0000000000000000, 0x0000000000000000, 0x0000000000000000,
    0x0000000000000000, 0x0000000000000000, 0x0000000000000000, 0x0000000000000000,
    0x0000000000000000, 0x0000000000000000]]

/-- The interval of `|x|`: its exponent and first fraction bit, counted from `0.125`, kept
within `0` and `15`. -/
def tanhInterval (x : Float) : Nat :=
  let hx : Int := ((x.toBits >>> 32) &&& 0x7FF80000).toNat
  (min (max (hx - 0x3FC00000) 0) 0x780000).toNat / Nat.pow 2 19

/-- `c_n + y (c_(n+1) + y (…))` for the coefficients `c_n, c_(n+1), …`, with a fused
multiply-add at each step. -/
def hornerFused (y : Float) : List Float → Float
  | [] => 0.0
  | [c] => c
  | c :: rest => fusedMulAdd (hornerFused y rest) y c

/-- The hyperbolic tangent. NaN stays NaN; beyond the largest interval (infinities included)
the result is `±1`. -/
def tanh (x : Float) : Float :=
  if x.isNaN then x
  else if ((x.toBits >>> 32) &&& 0x7FF80000) > 0x7FE00000 then copySign 1.0 x
  else
    let row := (tanhIntervals.getD (tanhInterval x) #[]).toList.map Float.ofBits
    match row with
    | centre :: coefficients => copySign (hornerFused (x.abs - centre) coefficients) x
    | [] => x

end Dataflow.Number
