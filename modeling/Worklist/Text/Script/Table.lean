import Worklist.Text.CharTable

/-!
# Scripts

The scripts of version 16 of the character standard, with their characters. A character may be used
with several scripts; one that belongs to a single script of its own is used with that script, and
one that belongs to no script of its own may be used with some that are listed.
-/

namespace Worklist.Text

/-- A script. -/
structure Script where
  /-- The names it goes by, in small letters and without gaps. -/
  names : List String
  /-- The characters that belong to it. -/
  own : CharTable
  /-- The characters that either belong to it or are used with it, but not both. -/
  shared : CharTable := ⟨#[]⟩

namespace Script

def adlam : Script where
  names := ["adlam", "adlm"]
  own := ⟨#[125184, 125260, 125264, 125274, 125278, 125280]⟩
  shared := ⟨#[1567, 1568, 1600, 1601, 8271, 8272, 11841, 11842]⟩

def ahom : Script where
  names := ["ahom"]
  own := ⟨#[71424, 71451, 71453, 71468, 71472, 71495]⟩

def anatolianHieroglyphs : Script where
  names := ["anatolianhieroglyphs", "hluw"]
  own := ⟨#[82944, 83527]⟩

def arabic : Script where
  names := ["arabic", "arab"]
  own := ⟨#[
    1536, 1541, 1542, 1548, 1549, 1563, 1564, 1567, 1568, 1600, 1601, 1611, 1622, 1648, 1649,
    1757, 1758, 1792, 1872, 1920, 2160, 2191, 2192, 2194, 2199, 2274, 2275, 2304, 64336, 64451,
    64467, 64830, 64832, 64912, 64914, 64968, 64975, 64976, 65008, 65024, 65136, 65141, 65142,
    65277, 69216, 69247, 69314, 69317, 69372, 69376, 126464, 126468, 126469, 126496, 126497,
    126499, 126500, 126501, 126503, 126504, 126505, 126515, 126516, 126520, 126521, 126522,
    126523, 126524, 126530, 126531, 126535, 126536, 126537, 126538, 126539, 126540, 126541,
    126544, 126545, 126547, 126548, 126549, 126551, 126552, 126553, 126554, 126555, 126556,
    126557, 126558, 126559, 126560, 126561, 126563, 126564, 126565, 126567, 126571, 126572,
    126579, 126580, 126584, 126585, 126589, 126590, 126591, 126592, 126602, 126603, 126620,
    126625, 126628, 126629, 126634, 126635, 126652, 126704, 126706]⟩
  shared := ⟨#[
    1548, 1549, 1563, 1564, 1567, 1568, 1600, 1601, 1611, 1622, 1648, 1649, 8271, 8272, 11841,
    11842, 64830, 64832, 66272, 66300]⟩

def armenian : Script where
  names := ["armenian", "armn"]
  own := ⟨#[1329, 1367, 1369, 1419, 1421, 1424, 64275, 64280]⟩
  shared := ⟨#[776, 777]⟩

def avestan : Script where
  names := ["avestan", "avst"]
  own := ⟨#[68352, 68406, 68409, 68416]⟩
  shared := ⟨#[183, 184, 11824, 11826]⟩

def balinese : Script where
  names := ["balinese", "bali"]
  own := ⟨#[6912, 6989, 6990, 7040]⟩

def bamum : Script where
  names := ["bamum", "bamu"]
  own := ⟨#[42656, 42744, 92160, 92729]⟩

def bassaVah : Script where
  names := ["bassavah", "bass"]
  own := ⟨#[92880, 92910, 92912, 92918]⟩

def batak : Script where
  names := ["batak", "batk"]
  own := ⟨#[7104, 7156, 7164, 7168]⟩

def bengali : Script where
  names := ["bengali", "beng"]
  own := ⟨#[
    2432, 2436, 2437, 2445, 2447, 2449, 2451, 2473, 2474, 2481, 2482, 2483, 2486, 2490, 2492,
    2501, 2503, 2505, 2507, 2511, 2519, 2520, 2524, 2526, 2527, 2532, 2534, 2559]⟩
  shared := ⟨#[
    700, 701, 2385, 2387, 2404, 2406, 7376, 7377, 7378, 7379, 7381, 7383, 7384, 7385, 7393, 7394,
    7402, 7403, 7405, 7406, 7410, 7411, 7413, 7416, 43249, 43250]⟩

def bhaiksuki : Script where
  names := ["bhaiksuki", "bhks"]
  own := ⟨#[72704, 72713, 72714, 72759, 72760, 72774, 72784, 72813]⟩

def bopomofo : Script where
  names := ["bopomofo", "bopo"]
  own := ⟨#[746, 748, 12549, 12592, 12704, 12736]⟩
  shared := ⟨#[
    711, 712, 713, 716, 729, 730, 12289, 12292, 12296, 12306, 12307, 12320, 12330, 12334, 12336,
    12337, 12343, 12344, 12539, 12540, 65093, 65095, 65377, 65382]⟩

def brahmi : Script where
  names := ["brahmi", "brah"]
  own := ⟨#[69632, 69710, 69714, 69750, 69759, 69760]⟩

def braille : Script where
  names := ["braille", "brai"]
  own := ⟨#[10240, 10496]⟩

def buginese : Script where
  names := ["buginese", "bugi"]
  own := ⟨#[6656, 6684, 6686, 6688]⟩
  shared := ⟨#[43471, 43472]⟩

def buhid : Script where
  names := ["buhid", "buhd"]
  own := ⟨#[5952, 5972]⟩
  shared := ⟨#[5941, 5943]⟩

def canadianAboriginal : Script where
  names := ["canadianaboriginal", "cans"]
  own := ⟨#[5120, 5760, 6320, 6390, 72368, 72384]⟩

def carian : Script where
  names := ["carian", "cari"]
  own := ⟨#[66208, 66257]⟩
  shared := ⟨#[183, 184, 8282, 8283, 8285, 8286, 11825, 11826]⟩

def caucasianAlbanian : Script where
  names := ["caucasianalbanian", "aghb"]
  own := ⟨#[66864, 66916, 66927, 66928]⟩
  shared := ⟨#[772, 773, 817, 818, 862, 863]⟩

def chakma : Script where
  names := ["chakma", "cakm"]
  own := ⟨#[69888, 69941, 69942, 69960]⟩
  shared := ⟨#[2534, 2544, 4160, 4170]⟩

def cham : Script where
  names := ["cham"]
  own := ⟨#[43520, 43575, 43584, 43598, 43600, 43610, 43612, 43616]⟩

def cherokee : Script where
  names := ["cherokee", "cher"]
  own := ⟨#[5024, 5110, 5112, 5118, 43888, 43968]⟩
  shared := ⟨#[768, 771, 772, 773, 779, 781, 803, 805, 816, 818]⟩

def chorasmian : Script where
  names := ["chorasmian", "chrs"]
  own := ⟨#[69552, 69580]⟩

def common : Script where
  names := ["common", "zyyy"]
  own := ⟨#[
    0, 65, 91, 97, 123, 170, 171, 186, 187, 192, 215, 216, 247, 248, 697, 736, 741, 746, 748,
    768, 884, 885, 894, 895, 901, 902, 903, 904, 1541, 1542, 1548, 1549, 1563, 1564, 1567, 1568,
    1600, 1601, 1757, 1758, 2274, 2275, 2404, 2406, 3647, 3648, 4053, 4057, 4347, 4348, 5867,
    5870, 5941, 5943, 6146, 6148, 6149, 6150, 7379, 7380, 7393, 7394, 7401, 7405, 7406, 7412,
    7413, 7416, 7418, 7419, 8192, 8204, 8206, 8293, 8294, 8305, 8308, 8319, 8320, 8335, 8352,
    8385, 8448, 8486, 8487, 8490, 8492, 8498, 8499, 8526, 8527, 8544, 8585, 8588, 8592, 9258,
    9280, 9291, 9312, 10240, 10496, 11124, 11126, 11158, 11159, 11264, 11776, 11870, 12272,
    12293, 12294, 12295, 12296, 12321, 12336, 12344, 12348, 12352, 12443, 12445, 12448, 12449,
    12539, 12541, 12688, 12704, 12736, 12774, 12783, 12784, 12832, 12896, 12927, 13008, 13055,
    13056, 13144, 13312, 19904, 19968, 42752, 42786, 42888, 42891, 43056, 43066, 43310, 43311,
    43471, 43472, 43867, 43868, 43882, 43884, 64830, 64832, 65040, 65050, 65072, 65107, 65108,
    65127, 65128, 65132, 65279, 65280, 65281, 65313, 65339, 65345, 65371, 65382, 65392, 65393,
    65438, 65440, 65504, 65511, 65512, 65519, 65529, 65534, 65792, 65795, 65799, 65844, 65847,
    65856, 65936, 65949, 66000, 66045, 66273, 66300, 113824, 113828, 117760, 118010, 118016,
    118452, 118608, 118724, 118784, 119030, 119040, 119079, 119081, 119143, 119146, 119163,
    119171, 119173, 119180, 119210, 119214, 119275, 119488, 119508, 119520, 119540, 119552,
    119639, 119648, 119673, 119808, 119893, 119894, 119965, 119966, 119968, 119970, 119971,
    119973, 119975, 119977, 119981, 119982, 119994, 119995, 119996, 119997, 120004, 120005,
    120070, 120071, 120075, 120077, 120085, 120086, 120093, 120094, 120122, 120123, 120127,
    120128, 120133, 120134, 120135, 120138, 120145, 120146, 120486, 120488, 120780, 120782,
    120832, 126065, 126133, 126209, 126270, 126976, 127020, 127024, 127124, 127136, 127151,
    127153, 127168, 127169, 127184, 127185, 127222, 127232, 127406, 127462, 127488, 127489,
    127491, 127504, 127548, 127552, 127561, 127568, 127570, 127584, 127590, 127744, 128728,
    128732, 128749, 128752, 128765, 128768, 128887, 128891, 128986, 128992, 129004, 129008,
    129009, 129024, 129036, 129040, 129096, 129104, 129114, 129120, 129160, 129168, 129198,
    129200, 129212, 129216, 129218, 129280, 129620, 129632, 129646, 129648, 129661, 129664,
    129674, 129679, 129735, 129742, 129757, 129759, 129770, 129776, 129785, 129792, 129939,
    129940, 130042, 917505, 917506, 917536, 917632]⟩
  shared := ⟨#[
    183, 184, 700, 701, 711, 712, 713, 716, 717, 718, 727, 728, 729, 730, 884, 885, 1548, 1549,
    1563, 1564, 1567, 1568, 1600, 1601, 2404, 2406, 4347, 4348, 5867, 5870, 5941, 5943, 6146,
    6148, 6149, 6150, 7379, 7380, 7393, 7394, 7401, 7405, 7406, 7412, 7413, 7416, 7418, 7419,
    8239, 8240, 8271, 8272, 8282, 8283, 8285, 8286, 11799, 11800, 11824, 11826, 11836, 11837,
    11841, 11842, 11843, 11844, 12272, 12288, 12289, 12292, 12294, 12295, 12296, 12306, 12307,
    12320, 12336, 12342, 12343, 12344, 12348, 12352, 12443, 12445, 12448, 12449, 12539, 12541,
    12688, 12704, 12736, 12774, 12783, 12784, 12832, 12872, 12928, 12977, 12992, 13004, 13055,
    13056, 13144, 13169, 13179, 13184, 13280, 13311, 42752, 42760, 43056, 43066, 43310, 43311,
    43471, 43472, 64830, 64832, 65093, 65095, 65377, 65382, 65392, 65393, 65438, 65440, 65792,
    65795, 65799, 65844, 65847, 65856, 66273, 66300, 113824, 113828, 119648, 119666, 127568,
    127570]⟩

def coptic : Script where
  names := ["coptic", "copt", "qaac"]
  own := ⟨#[994, 1008, 11392, 11508, 11513, 11520]⟩
  shared := ⟨#[183, 184, 768, 769, 772, 774, 775, 776, 884, 886, 11799, 11800, 66272, 66300]⟩

def cuneiform : Script where
  names := ["cuneiform", "xsux"]
  own := ⟨#[73728, 74650, 74752, 74863, 74864, 74869, 74880, 75076]⟩

def cypriot : Script where
  names := ["cypriot", "cprt"]
  own := ⟨#[67584, 67590, 67592, 67593, 67594, 67638, 67639, 67641, 67644, 67645, 67647, 67648]⟩
  shared := ⟨#[65792, 65795, 65799, 65844, 65847, 65856]⟩

def cyproMinoan : Script where
  names := ["cyprominoan", "cpmn"]
  own := ⟨#[77712, 77811]⟩
  shared := ⟨#[65792, 65794]⟩

def cyrillic : Script where
  names := ["cyrillic", "cyrl"]
  own := ⟨#[
    1024, 1157, 1159, 1328, 7296, 7307, 7467, 7468, 7544, 7545, 11744, 11776, 42560, 42656,
    65070, 65072, 122928, 122990, 123023, 123024]⟩
  shared := ⟨#[
    700, 701, 768, 771, 772, 773, 774, 775, 776, 777, 779, 780, 785, 786, 1157, 1159, 7672, 7673,
    11843, 11844]⟩

def deseret : Script where
  names := ["deseret", "dsrt"]
  own := ⟨#[66560, 66640]⟩

def devanagari : Script where
  names := ["devanagari", "deva"]
  own := ⟨#[2304, 2385, 2389, 2404, 2406, 2432, 43232, 43264, 72448, 72458]⟩
  shared := ⟨#[700, 701, 2385, 2387, 2404, 2406, 7376, 7415, 7416, 7418, 8432, 8433, 43056, 43066]⟩

def divesAkuru : Script where
  names := ["divesakuru", "diak"]
  own := ⟨#[
    71936, 71943, 71945, 71946, 71948, 71956, 71957, 71959, 71960, 71990, 71991, 71993, 71995,
    72007, 72016, 72026]⟩

def dogra : Script where
  names := ["dogra", "dogr"]
  own := ⟨#[71680, 71740]⟩
  shared := ⟨#[2404, 2416, 43056, 43066]⟩

def duployan : Script where
  names := ["duployan", "dupl"]
  own := ⟨#[113664, 113771, 113776, 113789, 113792, 113801, 113808, 113818, 113820, 113824]⟩
  shared := ⟨#[183, 184, 775, 777, 778, 779, 803, 805, 11836, 11837, 113824, 113828]⟩

def egyptianHieroglyphs : Script where
  names := ["egyptianhieroglyphs", "egyp"]
  own := ⟨#[77824, 78934, 78944, 82939]⟩

def elbasan : Script where
  names := ["elbasan", "elba"]
  own := ⟨#[66816, 66856]⟩
  shared := ⟨#[183, 184, 773, 774]⟩

def elymaic : Script where
  names := ["elymaic", "elym"]
  own := ⟨#[69600, 69623]⟩

def ethiopic : Script where
  names := ["ethiopic", "ethi"]
  own := ⟨#[
    4608, 4681, 4682, 4686, 4688, 4695, 4696, 4697, 4698, 4702, 4704, 4745, 4746, 4750, 4752,
    4785, 4786, 4790, 4792, 4799, 4800, 4801, 4802, 4806, 4808, 4823, 4824, 4881, 4882, 4886,
    4888, 4955, 4957, 4989, 4992, 5018, 11648, 11671, 11680, 11687, 11688, 11695, 11696, 11703,
    11704, 11711, 11712, 11719, 11720, 11727, 11728, 11735, 11736, 11743, 43777, 43783, 43785,
    43791, 43793, 43799, 43808, 43815, 43816, 43823, 124896, 124903, 124904, 124908, 124909,
    124911, 124912, 124927]⟩
  shared := ⟨#[782, 783]⟩

def garay : Script where
  names := ["garay", "gara"]
  own := ⟨#[68928, 68966, 68969, 68998, 69006, 69008]⟩
  shared := ⟨#[1548, 1549, 1563, 1564, 1567, 1568]⟩

def georgian : Script where
  names := ["georgian", "geor"]
  own := ⟨#[
    4256, 4294, 4295, 4296, 4301, 4302, 4304, 4347, 4348, 4352, 7312, 7355, 7357, 7360, 11520,
    11558, 11559, 11560, 11565, 11566]⟩
  shared := ⟨#[183, 184, 1417, 1418, 4347, 4348, 8282, 8283, 11825, 11826]⟩

def glagolitic : Script where
  names := ["glagolitic", "glag"]
  own := ⟨#[
    11264, 11360, 122880, 122887, 122888, 122905, 122907, 122914, 122915, 122917, 122918, 122923]⟩
  shared := ⟨#[
    183, 184, 771, 772, 773, 774, 1156, 1157, 1159, 1160, 1417, 1418, 4347, 4348, 8282, 8283,
    11843, 11844, 42607, 42608]⟩

def gothic : Script where
  names := ["gothic", "goth"]
  own := ⟨#[66352, 66379]⟩
  shared := ⟨#[183, 184, 772, 774, 776, 777, 817, 818]⟩

def grantha : Script where
  names := ["grantha", "gran"]
  own := ⟨#[
    70400, 70404, 70405, 70413, 70415, 70417, 70419, 70441, 70442, 70449, 70450, 70452, 70453,
    70458, 70460, 70469, 70471, 70473, 70475, 70478, 70480, 70481, 70487, 70488, 70493, 70500,
    70502, 70509, 70512, 70517]⟩
  shared := ⟨#[
    2385, 2387, 2404, 2406, 3046, 3060, 7376, 7377, 7378, 7380, 7410, 7413, 7416, 7418, 8432,
    8433, 70459, 70460, 73680, 73682, 73683, 73684]⟩

def greek : Script where
  names := ["greek", "grek"]
  own := ⟨#[
    880, 884, 885, 888, 890, 894, 895, 896, 900, 901, 902, 903, 904, 907, 908, 909, 910, 930,
    931, 994, 1008, 1024, 7462, 7467, 7517, 7522, 7526, 7531, 7615, 7616, 7936, 7958, 7960, 7966,
    7968, 8006, 8008, 8014, 8016, 8024, 8025, 8026, 8027, 8028, 8029, 8030, 8031, 8062, 8064,
    8117, 8118, 8133, 8134, 8148, 8150, 8156, 8157, 8176, 8178, 8181, 8182, 8191, 8486, 8487,
    43877, 43878, 65856, 65935, 65952, 65953, 119296, 119366]⟩
  shared := ⟨#[
    183, 184, 768, 770, 772, 773, 774, 775, 776, 777, 787, 788, 834, 835, 837, 838, 884, 885,
    7616, 7618, 8285, 8286]⟩

def gujarati : Script where
  names := ["gujarati", "gujr"]
  own := ⟨#[
    2689, 2692, 2693, 2702, 2703, 2706, 2707, 2729, 2730, 2737, 2738, 2740, 2741, 2746, 2748,
    2758, 2759, 2762, 2763, 2766, 2768, 2769, 2784, 2788, 2790, 2802, 2809, 2816]⟩
  shared := ⟨#[2385, 2387, 2404, 2406, 43056, 43066]⟩

def gunjalaGondi : Script where
  names := ["gunjalagondi", "gong"]
  own := ⟨#[73056, 73062, 73063, 73065, 73066, 73103, 73104, 73106, 73107, 73113, 73120, 73130]⟩
  shared := ⟨#[183, 184, 2404, 2406]⟩

def gurmukhi : Script where
  names := ["gurmukhi", "guru"]
  own := ⟨#[
    2561, 2564, 2565, 2571, 2575, 2577, 2579, 2601, 2602, 2609, 2610, 2612, 2613, 2615, 2616,
    2618, 2620, 2621, 2622, 2627, 2631, 2633, 2635, 2638, 2641, 2642, 2649, 2653, 2654, 2655,
    2662, 2679]⟩
  shared := ⟨#[2385, 2387, 2404, 2406, 43056, 43066]⟩

def gurungKhema : Script where
  names := ["gurungkhema", "gukh"]
  own := ⟨#[90368, 90426]⟩
  shared := ⟨#[2405, 2406]⟩

def han : Script where
  names := ["han", "hani"]
  own := ⟨#[
    11904, 11930, 11931, 12020, 12032, 12246, 12293, 12294, 12295, 12296, 12321, 12330, 12344,
    12348, 13312, 19904, 19968, 40960, 63744, 64110, 64112, 64218, 94178, 94180, 94192, 94194,
    131072, 173792, 173824, 177978, 177984, 178206, 178208, 183970, 183984, 191457, 191472,
    192094, 194560, 195102, 196608, 201547, 201552, 205744]⟩
  shared := ⟨#[
    183, 184, 12272, 12288, 12289, 12292, 12294, 12295, 12296, 12306, 12307, 12320, 12330, 12334,
    12336, 12337, 12343, 12344, 12348, 12352, 12539, 12540, 12688, 12704, 12736, 12774, 12783,
    12784, 12832, 12872, 12928, 12977, 12992, 13004, 13055, 13056, 13144, 13169, 13179, 13184,
    13280, 13311, 42752, 42760, 65093, 65095, 65377, 65382, 119648, 119666, 127568, 127570]⟩

def hangul : Script where
  names := ["hangul", "hang"]
  own := ⟨#[
    4352, 4608, 12334, 12336, 12593, 12687, 12800, 12831, 12896, 12927, 43360, 43389, 44032,
    55204, 55216, 55239, 55243, 55292, 65440, 65471, 65474, 65480, 65482, 65488, 65490, 65496,
    65498, 65501]⟩
  shared := ⟨#[
    12289, 12292, 12296, 12306, 12307, 12320, 12336, 12337, 12343, 12344, 12539, 12540, 65093,
    65095, 65377, 65382]⟩

def hanifiRohingya : Script where
  names := ["hanifirohingya", "rohg"]
  own := ⟨#[68864, 68904, 68912, 68922]⟩
  shared := ⟨#[1548, 1549, 1563, 1564, 1567, 1568, 1600, 1601, 1748, 1749]⟩

def hanunoo : Script where
  names := ["hanunoo", "hano"]
  own := ⟨#[5920, 5941]⟩
  shared := ⟨#[5941, 5943]⟩

def hatran : Script where
  names := ["hatran", "hatr"]
  own := ⟨#[67808, 67827, 67828, 67830, 67835, 67840]⟩

def hebrew : Script where
  names := ["hebrew", "hebr"]
  own := ⟨#[
    1425, 1480, 1488, 1515, 1519, 1525, 64285, 64311, 64312, 64317, 64318, 64319, 64320, 64322,
    64323, 64325, 64326, 64336]⟩
  shared := ⟨#[775, 777]⟩

def hiragana : Script where
  names := ["hiragana", "hira"]
  own := ⟨#[
    12353, 12439, 12445, 12448, 110593, 110880, 110898, 110899, 110928, 110931, 127488, 127489]⟩
  shared := ⟨#[
    12289, 12292, 12296, 12306, 12307, 12320, 12336, 12342, 12343, 12344, 12348, 12350, 12441,
    12445, 12448, 12449, 12539, 12541, 65093, 65095, 65377, 65382, 65392, 65393, 65438, 65440]⟩

def imperialAramaic : Script where
  names := ["imperialaramaic", "armi"]
  own := ⟨#[67648, 67670, 67671, 67680]⟩

def inherited : Script where
  names := ["inherited", "zinh", "qaai"]
  own := ⟨#[
    768, 880, 1157, 1159, 1611, 1622, 1648, 1649, 2385, 2389, 6832, 6863, 7376, 7379, 7380, 7393,
    7394, 7401, 7405, 7406, 7412, 7413, 7416, 7418, 7616, 7680, 8204, 8206, 8400, 8433, 12330,
    12334, 12441, 12443, 65024, 65040, 65056, 65070, 66045, 66046, 66272, 66273, 70459, 70460,
    118528, 118574, 118576, 118599, 119143, 119146, 119163, 119171, 119173, 119180, 119210,
    119214, 917760, 918000]⟩
  shared := ⟨#[
    768, 783, 784, 786, 787, 788, 803, 806, 813, 815, 816, 818, 834, 835, 837, 838, 856, 857,
    862, 863, 867, 880, 1157, 1159, 1611, 1622, 1648, 1649, 2385, 2387, 7376, 7379, 7380, 7393,
    7394, 7401, 7405, 7406, 7412, 7413, 7416, 7418, 7616, 7618, 7672, 7673, 7674, 7675, 8432,
    8433, 12330, 12334, 12441, 12443, 66272, 66273, 70459, 70460]⟩

def inscriptionalPahlavi : Script where
  names := ["inscriptionalpahlavi", "phli"]
  own := ⟨#[68448, 68467, 68472, 68480]⟩

def inscriptionalParthian : Script where
  names := ["inscriptionalparthian", "prti"]
  own := ⟨#[68416, 68438, 68440, 68448]⟩

def javanese : Script where
  names := ["javanese", "java"]
  own := ⟨#[43392, 43470, 43472, 43482, 43486, 43488]⟩
  shared := ⟨#[43471, 43472]⟩

def kaithi : Script where
  names := ["kaithi", "kthi"]
  own := ⟨#[69760, 69827, 69837, 69838]⟩
  shared := ⟨#[2406, 2416, 11825, 11826, 43056, 43066]⟩

def kannada : Script where
  names := ["kannada", "knda"]
  own := ⟨#[
    3200, 3213, 3214, 3217, 3218, 3241, 3242, 3252, 3253, 3258, 3260, 3269, 3270, 3273, 3274,
    3278, 3285, 3287, 3293, 3295, 3296, 3300, 3302, 3312, 3313, 3316]⟩
  shared := ⟨#[
    2385, 2387, 2404, 2406, 7376, 7377, 7378, 7380, 7386, 7387, 7410, 7411, 7412, 7413, 43056,
    43062]⟩

def katakana : Script where
  names := ["katakana", "kana"]
  own := ⟨#[
    12449, 12539, 12541, 12544, 12784, 12800, 13008, 13055, 13056, 13144, 65382, 65392, 65393,
    65438, 110576, 110580, 110581, 110588, 110589, 110591, 110592, 110593, 110880, 110883,
    110933, 110934, 110948, 110952]⟩
  shared := ⟨#[
    773, 774, 803, 804, 12289, 12292, 12296, 12306, 12307, 12320, 12336, 12342, 12343, 12344,
    12348, 12350, 12441, 12445, 12448, 12449, 12539, 12541, 65093, 65095, 65377, 65382, 65392,
    65393, 65438, 65440]⟩

def kawi : Script where
  names := ["kawi"]
  own := ⟨#[73472, 73489, 73490, 73531, 73534, 73563]⟩

def kayahLi : Script where
  names := ["kayahli", "kali"]
  own := ⟨#[43264, 43310, 43311, 43312]⟩
  shared := ⟨#[43310, 43311]⟩

def kharoshthi : Script where
  names := ["kharoshthi", "khar"]
  own := ⟨#[
    68096, 68100, 68101, 68103, 68108, 68116, 68117, 68120, 68121, 68150, 68152, 68155, 68159,
    68169, 68176, 68185]⟩

def khitanSmallScript : Script where
  names := ["khitansmallscript", "kits"]
  own := ⟨#[94180, 94181, 101120, 101590, 101631, 101632]⟩

def khmer : Script where
  names := ["khmer", "khmr"]
  own := ⟨#[6016, 6110, 6112, 6122, 6128, 6138, 6624, 6656]⟩

def khojki : Script where
  names := ["khojki", "khoj"]
  own := ⟨#[70144, 70162, 70163, 70210]⟩
  shared := ⟨#[2790, 2800, 43056, 43066]⟩

def khudawadi : Script where
  names := ["khudawadi", "sind"]
  own := ⟨#[70320, 70379, 70384, 70394]⟩
  shared := ⟨#[2404, 2406, 43056, 43066]⟩

def kiratRai : Script where
  names := ["kiratrai", "krai"]
  own := ⟨#[93504, 93562]⟩

def lao : Script where
  names := ["lao", "laoo"]
  own := ⟨#[
    3713, 3715, 3716, 3717, 3718, 3723, 3724, 3748, 3749, 3750, 3751, 3774, 3776, 3781, 3782,
    3783, 3784, 3791, 3792, 3802, 3804, 3808]⟩

def latin : Script where
  names := ["latin", "latn"]
  own := ⟨#[
    65, 91, 97, 123, 170, 171, 186, 187, 192, 215, 216, 247, 248, 697, 736, 741, 7424, 7462,
    7468, 7517, 7522, 7526, 7531, 7544, 7545, 7615, 7680, 7936, 8305, 8306, 8319, 8320, 8336,
    8349, 8490, 8492, 8498, 8499, 8526, 8527, 8544, 8585, 11360, 11392, 42786, 42888, 42891,
    42958, 42960, 42962, 42963, 42964, 42965, 42973, 42994, 43008, 43824, 43867, 43868, 43877,
    43878, 43882, 64256, 64263, 65313, 65339, 65345, 65371, 67456, 67462, 67463, 67505, 67506,
    67515, 122624, 122655, 122661, 122667]⟩
  shared := ⟨#[
    183, 184, 700, 701, 711, 712, 713, 716, 717, 718, 727, 728, 729, 730, 768, 783, 784, 786,
    787, 788, 803, 806, 813, 815, 816, 818, 856, 857, 862, 863, 867, 880, 1157, 1159, 2385, 2387,
    4347, 4348, 7672, 7673, 8239, 8240, 8432, 8433, 11799, 11800, 42752, 42760, 43310, 43311]⟩

def lepcha : Script where
  names := ["lepcha", "lepc"]
  own := ⟨#[7168, 7224, 7227, 7242, 7245, 7248]⟩

def limbu : Script where
  names := ["limbu", "limb"]
  own := ⟨#[6400, 6431, 6432, 6444, 6448, 6460, 6464, 6465, 6468, 6480]⟩
  shared := ⟨#[2405, 2406]⟩

def linearA : Script where
  names := ["lineara", "lina"]
  own := ⟨#[67072, 67383, 67392, 67414, 67424, 67432]⟩
  shared := ⟨#[65799, 65844]⟩

def linearB : Script where
  names := ["linearb", "linb"]
  own := ⟨#[
    65536, 65548, 65549, 65575, 65576, 65595, 65596, 65598, 65599, 65614, 65616, 65630, 65664,
    65787]⟩
  shared := ⟨#[65792, 65795, 65799, 65844, 65847, 65856]⟩

def lisu : Script where
  names := ["lisu"]
  own := ⟨#[42192, 42240, 73648, 73649]⟩
  shared := ⟨#[700, 701, 717, 718, 12298, 12300]⟩

def lycian : Script where
  names := ["lycian", "lyci"]
  own := ⟨#[66176, 66205]⟩
  shared := ⟨#[8282, 8283]⟩

def lydian : Script where
  names := ["lydian", "lydi"]
  own := ⟨#[67872, 67898, 67903, 67904]⟩
  shared := ⟨#[183, 184, 11825, 11826]⟩

def mahajani : Script where
  names := ["mahajani", "mahj"]
  own := ⟨#[69968, 70007]⟩
  shared := ⟨#[183, 184, 2404, 2416, 43056, 43066]⟩

def makasar : Script where
  names := ["makasar", "maka"]
  own := ⟨#[73440, 73465]⟩

def malayalam : Script where
  names := ["malayalam", "mlym"]
  own := ⟨#[3328, 3341, 3342, 3345, 3346, 3397, 3398, 3401, 3402, 3408, 3412, 3428, 3430, 3456]⟩
  shared := ⟨#[2385, 2387, 2404, 2406, 7386, 7387, 7410, 7411, 43056, 43059]⟩

def mandaic : Script where
  names := ["mandaic", "mand"]
  own := ⟨#[2112, 2140, 2142, 2143]⟩
  shared := ⟨#[1600, 1601]⟩

def manichaean : Script where
  names := ["manichaean", "mani"]
  own := ⟨#[68288, 68327, 68331, 68343]⟩
  shared := ⟨#[1600, 1601]⟩

def marchen : Script where
  names := ["marchen", "marc"]
  own := ⟨#[72816, 72848, 72850, 72872, 72873, 72887]⟩

def masaramGondi : Script where
  names := ["masaramgondi", "gonm"]
  own := ⟨#[
    72960, 72967, 72968, 72970, 72971, 73015, 73018, 73019, 73020, 73022, 73023, 73032, 73040,
    73050]⟩
  shared := ⟨#[2404, 2406]⟩

def medefaidrin : Script where
  names := ["medefaidrin", "medf"]
  own := ⟨#[93760, 93851]⟩

def meeteiMayek : Script where
  names := ["meeteimayek", "mtei"]
  own := ⟨#[43744, 43767, 43968, 44014, 44016, 44026]⟩

def mendeKikakui : Script where
  names := ["mendekikakui", "mend"]
  own := ⟨#[124928, 125125, 125127, 125143]⟩

def meroiticCursive : Script where
  names := ["meroiticcursive", "merc"]
  own := ⟨#[68000, 68024, 68028, 68048, 68050, 68096]⟩

def meroiticHieroglyphs : Script where
  names := ["meroitichieroglyphs", "mero"]
  own := ⟨#[67968, 68000]⟩
  shared := ⟨#[8285, 8286]⟩

def miao : Script where
  names := ["miao", "plrd"]
  own := ⟨#[93952, 94027, 94031, 94088, 94095, 94112]⟩

def modi : Script where
  names := ["modi"]
  own := ⟨#[71168, 71237, 71248, 71258]⟩
  shared := ⟨#[43056, 43066]⟩

def mongolian : Script where
  names := ["mongolian", "mong"]
  own := ⟨#[6144, 6146, 6148, 6149, 6150, 6170, 6176, 6265, 6272, 6315, 71264, 71277]⟩
  shared := ⟨#[6146, 6148, 6149, 6150, 8239, 8240, 12289, 12291, 12296, 12300]⟩

def mro : Script where
  names := ["mro", "mroo"]
  own := ⟨#[92736, 92767, 92768, 92778, 92782, 92784]⟩

def multani : Script where
  names := ["multani", "mult"]
  own := ⟨#[70272, 70279, 70280, 70281, 70282, 70286, 70287, 70302, 70303, 70314]⟩
  shared := ⟨#[2662, 2672]⟩

def myanmar : Script where
  names := ["myanmar", "mymr"]
  own := ⟨#[4096, 4256, 43488, 43519, 43616, 43648, 71376, 71396]⟩
  shared := ⟨#[43310, 43311]⟩

def nabataean : Script where
  names := ["nabataean", "nbat"]
  own := ⟨#[67712, 67743, 67751, 67760]⟩

def nagMundari : Script where
  names := ["nagmundari", "nagm"]
  own := ⟨#[124112, 124154]⟩

def nandinagari : Script where
  names := ["nandinagari", "nand"]
  own := ⟨#[72096, 72104, 72106, 72152, 72154, 72165]⟩
  shared := ⟨#[
    2385, 2386, 2404, 2406, 3302, 3312, 7401, 7402, 7410, 7411, 7418, 7419, 43056, 43062]⟩

def newa : Script where
  names := ["newa"]
  own := ⟨#[70656, 70748, 70749, 70754]⟩
  shared := ⟨#[2385, 2387, 7381, 7382, 7383, 7385, 7394, 7395, 7401, 7402, 7403, 7404, 7405, 7406]⟩

def newTaiLue : Script where
  names := ["newtailue", "talu"]
  own := ⟨#[6528, 6572, 6576, 6602, 6608, 6619, 6622, 6624]⟩

def nko : Script where
  names := ["nko", "nkoo"]
  own := ⟨#[1984, 2043, 2045, 2048]⟩
  shared := ⟨#[1548, 1549, 1563, 1564, 1567, 1568, 64830, 64832]⟩

def nushu : Script where
  names := ["nushu", "nshu"]
  own := ⟨#[94177, 94178, 110960, 111356]⟩

def nyiakengPuachueHmong : Script where
  names := ["nyiakengpuachuehmong", "hmnp"]
  own := ⟨#[123136, 123181, 123184, 123198, 123200, 123210, 123214, 123216]⟩

def ogham : Script where
  names := ["ogham", "ogam"]
  own := ⟨#[5760, 5789]⟩

def olChiki : Script where
  names := ["olchiki", "olck"]
  own := ⟨#[7248, 7296]⟩

def oldHungarian : Script where
  names := ["oldhungarian", "hung"]
  own := ⟨#[68736, 68787, 68800, 68851, 68858, 68864]⟩
  shared := ⟨#[8282, 8283, 8285, 8286, 11825, 11826, 11841, 11842]⟩

def oldItalic : Script where
  names := ["olditalic", "ital"]
  own := ⟨#[66304, 66340, 66349, 66352]⟩

def oldNorthArabian : Script where
  names := ["oldnortharabian", "narb"]
  own := ⟨#[68224, 68256]⟩

def oldPermic : Script where
  names := ["oldpermic", "perm"]
  own := ⟨#[66384, 66427]⟩
  shared := ⟨#[183, 184, 768, 769, 774, 777, 787, 788, 1155, 1156]⟩

def oldPersian : Script where
  names := ["oldpersian", "xpeo"]
  own := ⟨#[66464, 66500, 66504, 66518]⟩

def oldSogdian : Script where
  names := ["oldsogdian", "sogo"]
  own := ⟨#[69376, 69416]⟩

def oldSouthArabian : Script where
  names := ["oldsoutharabian", "sarb"]
  own := ⟨#[68192, 68224]⟩

def oldTurkic : Script where
  names := ["oldturkic", "orkh"]
  own := ⟨#[68608, 68681]⟩
  shared := ⟨#[8282, 8283, 11824, 11825]⟩

def oldUyghur : Script where
  names := ["olduyghur", "ougr"]
  own := ⟨#[69488, 69514]⟩
  shared := ⟨#[1600, 1601, 68338, 68339]⟩

def olOnal : Script where
  names := ["olonal", "onao"]
  own := ⟨#[124368, 124411, 124415, 124416]⟩
  shared := ⟨#[2404, 2406]⟩

def oriya : Script where
  names := ["oriya", "orya"]
  own := ⟨#[
    2817, 2820, 2821, 2829, 2831, 2833, 2835, 2857, 2858, 2865, 2866, 2868, 2869, 2874, 2876,
    2885, 2887, 2889, 2891, 2894, 2901, 2904, 2908, 2910, 2911, 2916, 2918, 2936]⟩
  shared := ⟨#[2385, 2387, 2404, 2406, 7386, 7387, 7410, 7411]⟩

def osage : Script where
  names := ["osage", "osge"]
  own := ⟨#[66736, 66772, 66776, 66812]⟩
  shared := ⟨#[769, 770, 772, 773, 779, 780, 856, 857]⟩

def osmanya : Script where
  names := ["osmanya", "osma"]
  own := ⟨#[66688, 66718, 66720, 66730]⟩

def pahawhHmong : Script where
  names := ["pahawhhmong", "hmng"]
  own := ⟨#[92928, 92998, 93008, 93018, 93019, 93026, 93027, 93048, 93053, 93072]⟩

def palmyrene : Script where
  names := ["palmyrene", "palm"]
  own := ⟨#[67680, 67712]⟩

def pauCinHau : Script where
  names := ["paucinhau", "pauc"]
  own := ⟨#[72384, 72441]⟩

def phagsPa : Script where
  names := ["phagspa", "phag"]
  own := ⟨#[43072, 43128]⟩
  shared := ⟨#[6146, 6148, 6149, 6150, 8239, 8240, 12290, 12291]⟩

def phoenician : Script where
  names := ["phoenician", "phnx"]
  own := ⟨#[67840, 67868, 67871, 67872]⟩

def psalterPahlavi : Script where
  names := ["psalterpahlavi", "phlp"]
  own := ⟨#[68480, 68498, 68505, 68509, 68521, 68528]⟩
  shared := ⟨#[1600, 1601]⟩

def rejang : Script where
  names := ["rejang", "rjng"]
  own := ⟨#[43312, 43348, 43359, 43360]⟩

def runic : Script where
  names := ["runic", "runr"]
  own := ⟨#[5792, 5867, 5870, 5881]⟩
  shared := ⟨#[5867, 5870]⟩

def samaritan : Script where
  names := ["samaritan", "samr"]
  own := ⟨#[2048, 2094, 2096, 2111]⟩
  shared := ⟨#[11825, 11826]⟩

def saurashtra : Script where
  names := ["saurashtra", "saur"]
  own := ⟨#[43136, 43206, 43214, 43226]⟩

def sharada : Script where
  names := ["sharada", "shrd"]
  own := ⟨#[70016, 70112]⟩
  shared := ⟨#[
    2385, 2386, 7383, 7384, 7385, 7386, 7388, 7390, 7392, 7393, 7402, 7403, 7405, 7406, 43056,
    43062, 43064, 43065]⟩

def shavian : Script where
  names := ["shavian", "shaw"]
  own := ⟨#[66640, 66688]⟩
  shared := ⟨#[183, 184]⟩

def siddham : Script where
  names := ["siddham", "sidd"]
  own := ⟨#[71040, 71094, 71096, 71134]⟩

def signWriting : Script where
  names := ["signwriting", "sgnw"]
  own := ⟨#[120832, 121484, 121499, 121504, 121505, 121520]⟩

def sinhala : Script where
  names := ["sinhala", "sinh"]
  own := ⟨#[
    3457, 3460, 3461, 3479, 3482, 3506, 3507, 3516, 3517, 3518, 3520, 3527, 3530, 3531, 3535,
    3541, 3542, 3543, 3544, 3552, 3558, 3568, 3570, 3573, 70113, 70133]⟩
  shared := ⟨#[2404, 2406, 7410, 7411]⟩

def sogdian : Script where
  names := ["sogdian", "sogd"]
  own := ⟨#[69424, 69466]⟩
  shared := ⟨#[1600, 1601]⟩

def soraSompeng : Script where
  names := ["sorasompeng", "sora"]
  own := ⟨#[69840, 69865, 69872, 69882]⟩

def soyombo : Script where
  names := ["soyombo", "soyo"]
  own := ⟨#[72272, 72355]⟩

def sundanese : Script where
  names := ["sundanese", "sund"]
  own := ⟨#[7040, 7104, 7360, 7368]⟩

def sunuwar : Script where
  names := ["sunuwar", "sunu"]
  own := ⟨#[72640, 72674, 72688, 72698]⟩
  shared := ⟨#[768, 770, 771, 772, 781, 782, 784, 785, 813, 814, 817, 818]⟩

def sylotiNagri : Script where
  names := ["sylotinagri", "sylo"]
  own := ⟨#[43008, 43053]⟩
  shared := ⟨#[2404, 2406, 2534, 2544]⟩

def syriac : Script where
  names := ["syriac", "syrc"]
  own := ⟨#[1792, 1806, 1807, 1867, 1869, 1872, 2144, 2155]⟩
  shared := ⟨#[
    771, 773, 775, 777, 778, 779, 803, 806, 813, 815, 816, 818, 1548, 1549, 1563, 1565, 1567,
    1568, 1600, 1601, 1611, 1622, 1648, 1649, 7672, 7673, 7674, 7675]⟩

def tagalog : Script where
  names := ["tagalog", "tglg"]
  own := ⟨#[5888, 5910, 5919, 5920]⟩
  shared := ⟨#[5941, 5943]⟩

def tagbanwa : Script where
  names := ["tagbanwa", "tagb"]
  own := ⟨#[5984, 5997, 5998, 6001, 6002, 6004]⟩
  shared := ⟨#[5941, 5943]⟩

def taiLe : Script where
  names := ["taile", "tale"]
  own := ⟨#[6480, 6510, 6512, 6517]⟩
  shared := ⟨#[768, 770, 775, 777, 780, 781, 4160, 4170]⟩

def taiTham : Script where
  names := ["taitham", "lana"]
  own := ⟨#[6688, 6751, 6752, 6781, 6783, 6794, 6800, 6810, 6816, 6830]⟩

def taiViet : Script where
  names := ["taiviet", "tavt"]
  own := ⟨#[43648, 43715, 43739, 43744]⟩

def takri : Script where
  names := ["takri", "takr"]
  own := ⟨#[71296, 71354, 71360, 71370]⟩
  shared := ⟨#[2404, 2406, 43056, 43066]⟩

def tamil : Script where
  names := ["tamil", "taml"]
  own := ⟨#[
    2946, 2948, 2949, 2955, 2958, 2961, 2962, 2966, 2969, 2971, 2972, 2973, 2974, 2976, 2979,
    2981, 2984, 2987, 2990, 3002, 3006, 3011, 3014, 3017, 3018, 3022, 3024, 3025, 3031, 3032,
    3046, 3067, 73664, 73714, 73727, 73728]⟩
  shared := ⟨#[
    2385, 2387, 2404, 2406, 7386, 7387, 43251, 43252, 70401, 70402, 70403, 70404, 70459, 70461]⟩

def tangsa : Script where
  names := ["tangsa", "tnsa"]
  own := ⟨#[92784, 92863, 92864, 92874]⟩

def tangut : Script where
  names := ["tangut", "tang"]
  own := ⟨#[94176, 94177, 94208, 100344, 100352, 101120, 101632, 101641]⟩
  shared := ⟨#[12272, 12288, 12783, 12784]⟩

def telugu : Script where
  names := ["telugu", "telu"]
  own := ⟨#[
    3072, 3085, 3086, 3089, 3090, 3113, 3114, 3130, 3132, 3141, 3142, 3145, 3146, 3150, 3157,
    3159, 3160, 3163, 3165, 3166, 3168, 3172, 3174, 3184, 3191, 3200]⟩
  shared := ⟨#[2385, 2387, 2404, 2406, 7381, 7383, 7384, 7385, 7386, 7387, 7410, 7411]⟩

def thaana : Script where
  names := ["thaana", "thaa"]
  own := ⟨#[1920, 1970]⟩
  shared := ⟨#[1548, 1549, 1563, 1565, 1567, 1568, 1632, 1642, 65010, 65011, 65021, 65022]⟩

def thai : Script where
  names := ["thai"]
  own := ⟨#[3585, 3643, 3648, 3676]⟩
  shared := ⟨#[700, 701, 727, 728, 771, 772, 817, 818]⟩

def tibetan : Script where
  names := ["tibetan", "tibt"]
  own := ⟨#[3840, 3912, 3913, 3949, 3953, 3992, 3993, 4029, 4030, 4045, 4046, 4053, 4057, 4059]⟩
  shared := ⟨#[12296, 12300]⟩

def tifinagh : Script where
  names := ["tifinagh", "tfng"]
  own := ⟨#[11568, 11624, 11631, 11633, 11647, 11648]⟩
  shared := ⟨#[770, 771, 772, 773, 774, 778, 803, 804]⟩

def tirhuta : Script where
  names := ["tirhuta", "tirh"]
  own := ⟨#[70784, 70856, 70864, 70874]⟩
  shared := ⟨#[2385, 2387, 2404, 2406, 7381, 7382, 7394, 7395, 7410, 7411, 43056, 43066]⟩

def todhri : Script where
  names := ["todhri", "todr"]
  own := ⟨#[67008, 67060]⟩
  shared := ⟨#[769, 770, 772, 773, 775, 776, 785, 786, 787, 788, 862, 863]⟩

def toto : Script where
  names := ["toto"]
  own := ⟨#[123536, 123567]⟩
  shared := ⟨#[700, 701]⟩

def tuluTigalari : Script where
  names := ["tulutigalari", "tutg"]
  own := ⟨#[
    70528, 70538, 70539, 70540, 70542, 70543, 70544, 70582, 70583, 70593, 70594, 70595, 70597,
    70598, 70599, 70603, 70604, 70614, 70615, 70617, 70625, 70627]⟩
  shared := ⟨#[3302, 3312, 7410, 7411, 7412, 7413, 43056, 43062, 43249, 43250]⟩

def ugaritic : Script where
  names := ["ugaritic", "ugar"]
  own := ⟨#[66432, 66462, 66463, 66464]⟩

def vai : Script where
  names := ["vai", "vaii"]
  own := ⟨#[42240, 42540]⟩

def vithkuqi : Script where
  names := ["vithkuqi", "vith"]
  own := ⟨#[
    66928, 66939, 66940, 66955, 66956, 66963, 66964, 66966, 66967, 66978, 66979, 66994, 66995,
    67002, 67003, 67005]⟩

def wancho : Script where
  names := ["wancho", "wcho"]
  own := ⟨#[123584, 123642, 123647, 123648]⟩

def warangCiti : Script where
  names := ["warangciti", "wara"]
  own := ⟨#[71840, 71923, 71935, 71936]⟩

def yezidi : Script where
  names := ["yezidi", "yezi"]
  own := ⟨#[69248, 69290, 69291, 69294, 69296, 69298]⟩
  shared := ⟨#[1548, 1549, 1563, 1564, 1567, 1568, 1632, 1642]⟩

def yi : Script where
  names := ["yi", "yiii"]
  own := ⟨#[40960, 42125, 42128, 42183]⟩
  shared := ⟨#[12289, 12291, 12296, 12306, 12308, 12316, 12539, 12540, 65377, 65382]⟩

def zanabazarSquare : Script where
  names := ["zanabazarsquare", "zanb"]
  own := ⟨#[72192, 72264]⟩

end Script

/-- All scripts. -/
def scripts : List Script := [
  .adlam, .ahom, .anatolianHieroglyphs, .arabic, .armenian, .avestan, .balinese, .bamum,
  .bassaVah, .batak, .bengali, .bhaiksuki, .bopomofo, .brahmi, .braille, .buginese, .buhid,
  .canadianAboriginal, .carian, .caucasianAlbanian, .chakma, .cham, .cherokee, .chorasmian,
  .common, .coptic, .cuneiform, .cypriot, .cyproMinoan, .cyrillic, .deseret, .devanagari,
  .divesAkuru, .dogra, .duployan, .egyptianHieroglyphs, .elbasan, .elymaic, .ethiopic, .garay,
  .georgian, .glagolitic, .gothic, .grantha, .greek, .gujarati, .gunjalaGondi, .gurmukhi,
  .gurungKhema, .han, .hangul, .hanifiRohingya, .hanunoo, .hatran, .hebrew, .hiragana,
  .imperialAramaic, .inherited, .inscriptionalPahlavi, .inscriptionalParthian, .javanese, .kaithi,
  .kannada, .katakana, .kawi, .kayahLi, .kharoshthi, .khitanSmallScript, .khmer, .khojki,
  .khudawadi, .kiratRai, .lao, .latin, .lepcha, .limbu, .linearA, .linearB, .lisu, .lycian,
  .lydian, .mahajani, .makasar, .malayalam, .mandaic, .manichaean, .marchen, .masaramGondi,
  .medefaidrin, .meeteiMayek, .mendeKikakui, .meroiticCursive, .meroiticHieroglyphs, .miao, .modi,
  .mongolian, .mro, .multani, .myanmar, .nabataean, .nagMundari, .nandinagari, .newa, .newTaiLue,
  .nko, .nushu, .nyiakengPuachueHmong, .ogham, .olChiki, .oldHungarian, .oldItalic,
  .oldNorthArabian, .oldPermic, .oldPersian, .oldSogdian, .oldSouthArabian, .oldTurkic,
  .oldUyghur, .olOnal, .oriya, .osage, .osmanya, .pahawhHmong, .palmyrene, .pauCinHau, .phagsPa,
  .phoenician, .psalterPahlavi, .rejang, .runic, .samaritan, .saurashtra, .sharada, .shavian,
  .siddham, .signWriting, .sinhala, .sogdian, .soraSompeng, .soyombo, .sundanese, .sunuwar,
  .sylotiNagri, .syriac, .tagalog, .tagbanwa, .taiLe, .taiTham, .taiViet, .takri, .tamil, .tangsa,
  .tangut, .telugu, .thaana, .thai, .tibetan, .tifinagh, .tirhuta, .todhri, .toto, .tuluTigalari,
  .ugaritic, .vai, .vithkuqi, .wancho, .warangCiti, .yezidi, .yi, .zanabazarSquare]

end Worklist.Text
