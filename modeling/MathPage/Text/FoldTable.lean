/-!
# Plain equivalents of accented and styled characters

What is left of a character when its compatibility decomposition is reduced to ASCII
(Unicode 14): `é` leaves `e`, `½` leaves `12`, a letter of another script leaves nothing and is not
listed.
-/

namespace MathPage.Text

/-- Runs of styled letters and digits: first, last, plain equivalent of the first. -/
def styledRuns : List (Nat × Nat × Nat) := [
  (7475, 7482, 71), (8308, 8313, 52), (8320, 8329, 48), (8342, 8345, 107), (8473, 8475, 80),
  (8491, 8493, 65), (9312, 9320, 49), (9398, 9423, 65), (9424, 9449, 97), (12992, 13000, 49),
  (13144, 13153, 48), (13280, 13288, 49), (65281, 65374, 33), (119808, 119833, 65),
  (119834, 119859, 97), (119860, 119885, 65), (119886, 119892, 97), (119894, 119911, 105),
  (119912, 119937, 65), (119938, 119963, 97), (119977, 119980, 78), (119982, 119989, 83),
  (119990, 119993, 97), (119997, 120003, 104), (120005, 120015, 112), (120016, 120041, 65),
  (120042, 120067, 97), (120071, 120074, 68), (120077, 120084, 74), (120086, 120092, 83),
  (120094, 120119, 97), (120123, 120126, 68), (120128, 120132, 73), (120138, 120144, 83),
  (120146, 120171, 97), (120172, 120197, 65), (120198, 120223, 97), (120224, 120249, 65),
  (120250, 120275, 97), (120276, 120301, 65), (120302, 120327, 97), (120328, 120353, 65),
  (120354, 120379, 97), (120380, 120405, 65), (120406, 120431, 97), (120432, 120457, 65),
  (120458, 120483, 97), (120782, 120791, 48), (120792, 120801, 48), (120802, 120811, 48),
  (120812, 120821, 48), (120822, 120831, 48), (127280, 127305, 65), (130032, 130041, 48)]

/-- The other characters, listed under the plain text that they leave. -/
def plainEquivalents : List (String × List Nat) := [
  (" ", [160, 168, 175, 180, 184, 728, 729, 730, 731, 732, 733, 890, 900, 901, 8125, 8127, 8128,
    8129, 8141, 8142, 8143, 8157, 8158, 8159, 8173, 8174, 8189, 8190, 8192, 8193, 8194, 8195,
    8196, 8197, 8198, 8199, 8200, 8201, 8202, 8215, 8239, 8254, 8287, 12288, 12443, 12444, 64606,
    64607, 64608, 64609, 64610, 64611, 65019, 65097, 65098, 65099, 65100, 65136, 65138, 65140,
    65142, 65144, 65146, 65148, 65150, 65507]),
  ("!", [65045, 65111]),
  ("#", [65119]),
  ("$", [65129]),
  ("%", [65130]),
  ("&", [65120]),
  ("(", [8317, 8333, 65077, 65113]),
  (")", [8318, 8334, 65078, 65114]),
  ("*", [65121]),
  ("+", [8314, 8330, 64297, 65122]),
  (",", [65040, 65104]),
  ("-", [65123]),
  (".", [8228, 65106]),
  ("0", [8304, 9450]),
  ("1", [185, 8543]),
  ("2", [178]),
  ("3", [179]),
  (":", [65043, 65109]),
  (";", [894, 65044, 65108]),
  ("<", [8814, 65124]),
  ("=", [8316, 8332, 8800, 65126]),
  (">", [8815, 65125]),
  ("?", [65046, 65110]),
  ("@", [65131]),
  ("A", [192, 193, 194, 195, 196, 197, 256, 258, 260, 461, 478, 480, 506, 512, 514, 550, 7468,
    7680, 7840, 7842, 7844, 7846, 7848, 7850, 7852, 7854, 7856, 7858, 7860, 7862, 13186, 119964,
    120068, 120120]),
  ("B", [7470, 7682, 7684, 7686, 120069, 120121]),
  ("C", [199, 262, 264, 266, 268, 7688, 8450, 8451, 8557, 42994, 119966, 127275]),
  ("D", [270, 7472, 7690, 7692, 7694, 7696, 7698, 8517, 8558, 119967]),
  ("E", [200, 201, 202, 203, 274, 276, 278, 280, 282, 516, 518, 552, 7473, 7700, 7702, 7704,
    7706, 7708, 7864, 7866, 7868, 7870, 7872, 7874, 7876, 7878, 8496]),
  ("F", [7710, 8457, 8497, 13196, 42995]),
  ("G", [284, 286, 288, 290, 486, 500, 7712, 119970]),
  ("H", [292, 542, 7714, 7716, 7718, 7720, 7722, 8459, 8460, 8461]),
  ("I", [204, 205, 206, 207, 296, 298, 300, 302, 304, 463, 520, 522, 7724, 7726, 7880, 7882,
    8464, 8465, 8544]),
  ("J", [308, 119973]),
  ("K", [310, 488, 7728, 7730, 7732, 8490, 119974]),
  ("L", [313, 315, 317, 319, 7734, 7736, 7738, 7740, 8466, 8556]),
  ("M", [7742, 7744, 7746, 8499, 8559, 13249]),
  ("N", [209, 323, 325, 327, 504, 7748, 7750, 7752, 7754, 8469]),
  ("O", [210, 211, 212, 213, 214, 332, 334, 336, 416, 465, 490, 492, 524, 526, 554, 556, 558,
    560, 7484, 7756, 7758, 7760, 7762, 7884, 7886, 7888, 7890, 7892, 7894, 7896, 7898, 7900,
    7902, 7904, 7906, 120134]),
  ("P", [7486, 7764, 7766]),
  ("Q", [42996]),
  ("R", [340, 342, 344, 528, 530, 7487, 7768, 7770, 7772, 7774, 8476, 8477, 127276]),
  ("S", [346, 348, 350, 352, 536, 7776, 7778, 7780, 7782, 7784, 127274]),
  ("T", [354, 356, 538, 7488, 7786, 7788, 7790, 7792]),
  ("U", [217, 218, 219, 220, 360, 362, 364, 366, 368, 370, 431, 467, 469, 471, 473, 475, 532,
    534, 7489, 7794, 7796, 7798, 7800, 7802, 7908, 7910, 7912, 7914, 7916, 7918, 7920]),
  ("V", [7804, 7806, 8548, 11389, 13238]),
  ("W", [372, 7490, 7808, 7810, 7812, 7814, 7816, 13244]),
  ("X", [7818, 7820, 8553]),
  ("Y", [221, 374, 376, 562, 7822, 7922, 7924, 7926, 7928]),
  ("Z", [377, 379, 381, 7824, 7826, 7828, 8484, 8488]),
  ("[", [65095]),
  ("\x5c", [65128]),
  ("]", [65096]),
  ("_", [65075, 65076, 65101, 65102, 65103]),
  ("\x60", [8175]),
  ("a", [170, 224, 225, 226, 227, 228, 229, 257, 259, 261, 462, 479, 481, 507, 513, 515, 551,
    7491, 7681, 7834, 7841, 7843, 7845, 7847, 7849, 7851, 7853, 7855, 7857, 7859, 7861, 7863,
    8336]),
  ("b", [7495, 7683, 7685, 7687]),
  ("c", [231, 263, 265, 267, 269, 7580, 7689, 8573]),
  ("d", [271, 7496, 7691, 7693, 7695, 7697, 7699, 8518, 8574]),
  ("e", [232, 233, 234, 235, 275, 277, 279, 281, 283, 517, 519, 553, 7497, 7701, 7703, 7705,
    7707, 7709, 7865, 7867, 7869, 7871, 7873, 7875, 7877, 7879, 8337, 8495, 8519]),
  ("f", [7584, 7711, 119995]),
  ("g", [285, 287, 289, 291, 487, 501, 7501, 7713, 8458, 13197]),
  ("h", [293, 543, 688, 7715, 7717, 7719, 7721, 7723, 7830, 8341, 8462]),
  ("i", [236, 237, 238, 239, 297, 299, 301, 303, 464, 521, 523, 7522, 7725, 7727, 7881, 7883,
    8305, 8505, 8520, 8560]),
  ("j", [309, 496, 690, 8521, 11388]),
  ("k", [311, 489, 7503, 7729, 7731, 7733, 13248]),
  ("l", [314, 316, 318, 320, 737, 7735, 7737, 7739, 7741, 8467, 8572, 13205]),
  ("m", [7504, 7743, 7745, 7747, 8575, 13211]),
  ("n", [241, 324, 326, 328, 329, 505, 7749, 7751, 7753, 7755, 8319]),
  ("o", [186, 242, 243, 244, 245, 246, 333, 335, 337, 417, 466, 491, 493, 525, 527, 555, 557,
    559, 561, 7506, 7757, 7759, 7761, 7763, 7885, 7887, 7889, 7891, 7893, 7895, 7897, 7899, 7901,
    7903, 7905, 7907, 8338, 8500]),
  ("p", [7510, 7765, 7767, 8346]),
  ("q", [67493]),
  ("r", [341, 343, 345, 529, 531, 691, 7523, 7769, 7771, 7773, 7775]),
  ("s", [347, 349, 351, 353, 383, 537, 738, 7777, 7779, 7781, 7783, 7785, 7835, 8347, 13234]),
  ("t", [355, 357, 539, 7511, 7787, 7789, 7791, 7793, 7831, 8348]),
  ("u", [249, 250, 251, 252, 361, 363, 365, 367, 369, 371, 432, 468, 470, 472, 474, 476, 533,
    535, 7512, 7524, 7795, 7797, 7799, 7801, 7803, 7909, 7911, 7913, 7915, 7917, 7919, 7921]),
  ("v", [7515, 7525, 7805, 7807, 8564]),
  ("w", [373, 695, 7809, 7811, 7813, 7815, 7817, 7832]),
  ("x", [739, 7819, 7821, 8339, 8569]),
  ("y", [253, 255, 375, 563, 696, 7823, 7833, 7923, 7925, 7927, 7929]),
  ("z", [378, 380, 382, 7611, 7825, 7827, 7829]),
  ("\x7b", [65079, 65115]),
  ("\x7d", [65080, 65116]),
  ("!!", [8252]),
  ("!?", [8265]),
  ("()", [12800, 12801, 12802, 12803, 12804, 12805, 12806, 12807, 12808, 12809, 12810, 12811,
    12812, 12813, 12814, 12815, 12816, 12817, 12818, 12819, 12820, 12821, 12822, 12823, 12824,
    12825, 12826, 12827, 12828, 12829, 12830, 12832, 12833, 12834, 12835, 12836, 12837, 12838,
    12839, 12840, 12841, 12842, 12843, 12844, 12845, 12846, 12847, 12848, 12849, 12850, 12851,
    12852, 12853, 12854, 12855, 12856, 12857, 12858, 12859, 12860, 12861, 12862, 12863, 12864,
    12865, 12866, 12867]),
  ("..", [8229, 65072]),
  ("0,", [127233]),
  ("0.", [127232]),
  ("03", [8585]),
  ("1,", [127234]),
  ("1.", [9352]),
  ("10", [9321, 13001, 13154, 13289]),
  ("11", [9322, 13002, 13155, 13290]),
  ("12", [189, 9323, 13003, 13156, 13291]),
  ("13", [8531, 9324, 13157, 13292]),
  ("14", [188, 9325, 13158, 13293]),
  ("15", [8533, 9326, 13159, 13294]),
  ("16", [8537, 9327, 13160, 13295]),
  ("17", [8528, 9328, 13161, 13296]),
  ("18", [8539, 9329, 13162, 13297]),
  ("19", [8529, 9330, 13163, 13298]),
  ("2,", [127235]),
  ("2.", [9353]),
  ("20", [9331, 13164, 13299]),
  ("21", [12881, 13165, 13300]),
  ("22", [12882, 13166, 13301]),
  ("23", [8532, 12883, 13167, 13302]),
  ("24", [12884, 13168, 13303]),
  ("25", [8534, 12885, 13304]),
  ("26", [12886, 13305]),
  ("27", [12887, 13306]),
  ("28", [12888, 13307]),
  ("29", [12889, 13308]),
  ("3,", [127236]),
  ("3.", [9354]),
  ("30", [12890, 13309]),
  ("31", [12891, 13310]),
  ("32", [12892]),
  ("33", [12893]),
  ("34", [190, 12894]),
  ("35", [8535, 12895]),
  ("36", [12977]),
  ("37", [12978]),
  ("38", [8540, 12979]),
  ("39", [12980]),
  ("4,", [127237]),
  ("4.", [9355]),
  ("40", [12981]),
  ("41", [12982]),
  ("42", [12983]),
  ("43", [12984]),
  ("44", [12985]),
  ("45", [8536, 12986]),
  ("46", [12987]),
  ("47", [12988]),
  ("48", [12989]),
  ("49", [12990]),
  ("5,", [127238]),
  ("5.", [9356]),
  ("50", [12991]),
  ("56", [8538]),
  ("58", [8541]),
  ("6,", [127239]),
  ("6.", [9357]),
  ("7,", [127240]),
  ("7.", [9358]),
  ("78", [8542]),
  ("8,", [127241]),
  ("8.", [9359]),
  ("9,", [127242]),
  ("9.", [9360]),
  ("==", [10869]),
  ("?!", [8264]),
  ("??", [8263]),
  ("AU", [13171]),
  ("Am", [13279]),
  ("Bq", [13251]),
  ("CD", [127277]),
  ("DJ", [127376]),
  ("DZ", [452, 497]),
  ("Dz", [453, 498]),
  ("GB", [13191]),
  ("Gy", [13257]),
  ("HP", [13259]),
  ("HV", [127306]),
  ("Hg", [13004]),
  ("Hz", [13200]),
  ("II", [8545]),
  ("IJ", [306]),
  ("IU", [13178]),
  ("IV", [8547]),
  ("IX", [8552]),
  ("KB", [13189]),
  ("KK", [13261]),
  ("KM", [13262]),
  ("LJ", [455]),
  ("Lj", [456]),
  ("MB", [13190]),
  ("MC", [127338]),
  ("MD", [127339]),
  ("MR", [127340]),
  ("MV", [13241, 127307]),
  ("MW", [13247]),
  ("NJ", [458]),
  ("Nj", [459]),
  ("No", [8470]),
  ("PH", [13271]),
  ("PR", [13274]),
  ("Pa", [13225]),
  ("Rs", [8360]),
  ("SD", [127308]),
  ("SM", [8480]),
  ("SS", [127309]),
  ("Sv", [13276]),
  ("TM", [8482]),
  ("VI", [8549]),
  ("Vm", [13278]),
  ("WC", [127311]),
  ("WZ", [127278]),
  ("Wb", [13277]),
  ("XI", [8554]),
  ("cc", [13252]),
  ("cd", [13253]),
  ("cm", [13213]),
  ("dB", [13256]),
  ("da", [13170]),
  ("dl", [13207]),
  ("dm", [13175]),
  ("dz", [454, 499]),
  ("eV", [13006]),
  ("ff", [64256]),
  ("fi", [64257]),
  ("fl", [64258]),
  ("fm", [13209]),
  ("ha", [13258]),
  ("ii", [8561]),
  ("ij", [307]),
  ("in", [13260]),
  ("iv", [8563]),
  ("ix", [8568]),
  ("kA", [13188]),
  ("kV", [13240]),
  ("kW", [13246]),
  ("kg", [13199]),
  ("kl", [13208]),
  ("km", [13214]),
  ("kt", [13263]),
  ("lj", [457]),
  ("lm", [13264]),
  ("ln", [13265]),
  ("lx", [13267]),
  ("m2", [13217]),
  ("m3", [13221]),
  ("mA", [13187]),
  ("mV", [13239]),
  ("mW", [13245]),
  ("mb", [13268]),
  ("mg", [13198]),
  ("ml", [13206]),
  ("mm", [13212]),
  ("ms", [13223, 13235]),
  ("nA", [13185]),
  ("nF", [13195]),
  ("nV", [13237]),
  ("nW", [13243]),
  ("nj", [460]),
  ("nm", [13210]),
  ("ns", [13233]),
  ("oV", [13173]),
  ("pA", [13184]),
  ("pF", [13194]),
  ("pV", [13236]),
  ("pW", [13242]),
  ("pc", [13174]),
  ("ps", [13232]),
  ("sr", [13275]),
  ("st", [64261, 64262]),
  ("vi", [8565]),
  ("xi", [8570]),
  ("   ", [65018]),
  ("(1)", [9332]),
  ("(2)", [9333]),
  ("(3)", [9334]),
  ("(4)", [9335]),
  ("(5)", [9336]),
  ("(6)", [9337]),
  ("(7)", [9338]),
  ("(8)", [9339]),
  ("(9)", [9340]),
  ("(A)", [127248]),
  ("(B)", [127249]),
  ("(C)", [127250]),
  ("(D)", [127251]),
  ("(E)", [127252]),
  ("(F)", [127253]),
  ("(G)", [127254]),
  ("(H)", [127255]),
  ("(I)", [127256]),
  ("(J)", [127257]),
  ("(K)", [127258]),
  ("(L)", [127259]),
  ("(M)", [127260]),
  ("(N)", [127261]),
  ("(O)", [127262]),
  ("(P)", [127263]),
  ("(Q)", [127264]),
  ("(R)", [127265]),
  ("(S)", [127266]),
  ("(T)", [127267]),
  ("(U)", [127268]),
  ("(V)", [127269]),
  ("(W)", [127270]),
  ("(X)", [127271]),
  ("(Y)", [127272]),
  ("(Z)", [127273]),
  ("(a)", [9372]),
  ("(b)", [9373]),
  ("(c)", [9374]),
  ("(d)", [9375]),
  ("(e)", [9376]),
  ("(f)", [9377]),
  ("(g)", [9378]),
  ("(h)", [9379]),
  ("(i)", [9380]),
  ("(j)", [9381]),
  ("(k)", [9382]),
  ("(l)", [9383]),
  ("(m)", [9384]),
  ("(n)", [9385]),
  ("(o)", [9386]),
  ("(p)", [9387]),
  ("(q)", [9388]),
  ("(r)", [9389]),
  ("(s)", [9390]),
  ("(t)", [9391]),
  ("(u)", [9392]),
  ("(v)", [9393]),
  ("(w)", [9394]),
  ("(x)", [9395]),
  ("(y)", [9396]),
  ("(z)", [9397]),
  ("...", [8230, 65049]),
  ("10.", [9361]),
  ("11.", [9362]),
  ("110", [8530]),
  ("12.", [9363]),
  ("13.", [9364]),
  ("14.", [9365]),
  ("15.", [9366]),
  ("16.", [9367]),
  ("17.", [9368]),
  ("18.", [9369]),
  ("19.", [9370]),
  ("20.", [9371]),
  ("::=", [10868]),
  ("===", [10870]),
  ("Ckg", [13254]),
  ("Co.", [13255]),
  ("FAX", [8507]),
  ("GHz", [13203]),
  ("GPa", [13228]),
  ("III", [8546]),
  ("LTD", [13007]),
  ("MHz", [13202]),
  ("MPa", [13227]),
  ("PPM", [13273]),
  ("PPV", [127310]),
  ("PTE", [12880]),
  ("TEL", [8481]),
  ("THz", [13204]),
  ("VII", [8550]),
  ("XII", [8555]),
  ("a/c", [8448]),
  ("a/s", [8449]),
  ("bar", [13172]),
  ("c/o", [8453]),
  ("c/u", [8454]),
  ("cal", [13192]),
  ("cm2", [13216]),
  ("cm3", [13220]),
  ("dm2", [13176]),
  ("dm3", [13177]),
  ("erg", [13005]),
  ("ffi", [64259]),
  ("ffl", [64260]),
  ("gal", [13311]),
  ("hPa", [13169]),
  ("iii", [8562]),
  ("kHz", [13201]),
  ("kPa", [13226]),
  ("km2", [13218]),
  ("km3", [13222]),
  ("log", [13266]),
  ("mil", [13269]),
  ("mm2", [13215]),
  ("mm3", [13219]),
  ("mol", [13270]),
  ("ms2", [13224]),
  ("rad", [13229]),
  ("vii", [8566]),
  ("xii", [8571]),
  ("(10)", [9341]),
  ("(11)", [9342]),
  ("(12)", [9343]),
  ("(13)", [9344]),
  ("(14)", [9345]),
  ("(15)", [9346]),
  ("(16)", [9347]),
  ("(17)", [9348]),
  ("(18)", [9349]),
  ("(19)", [9350]),
  ("(20)", [9351]),
  ("VIII", [8551]),
  ("a.m.", [13250]),
  ("kcal", [13193]),
  ("p.m.", [13272]),
  ("rads", [13230]),
  ("viii", [8567]),
  ("rads2", [13231])]

end MathPage.Text
