/-
This file holds the plain forms of the characters beyond ASCII: what is left of
a character of Unicode 14 after it is taken apart by compatibility and only
ASCII is kept. A character that leaves nothing is not listed.
-/

namespace CampaignPress.Text

/-- Runs of consecutive code points: the first, their number, and their plain forms, one a line. -/
def plainRuns : List (Nat × Nat × String) :=
  [(160, 1, " "),
   (168, 1, " "),
   (170, 1, "a"),
   (175, 1, " "),
   (178, 3, "2\n3\n "),
   (184, 3, " \n1\no"),
   (188, 3, "14\n12\n34"),
   (192, 6, "A\nA\nA\nA\nA\nA"),
   (199, 9, "C\nE\nE\nE\nE\nI\nI\nI\nI"),
   (209, 6, "N\nO\nO\nO\nO\nO"),
   (217, 5, "U\nU\nU\nU\nY"),
   (224, 6, "a\na\na\na\na\na"),
   (231, 9, "c\ne\ne\ne\ne\ni\ni\ni\ni"),
   (241, 6, "n\no\no\no\no\no"),
   (249, 5, "u\nu\nu\nu\ny"),
   (255, 17, "y\nA\na\nA\na\nA\na\nC\nc\nC\nc\nC\nc\nC\nc\nD\nd"),
   (274, 20, "E\ne\nE\ne\nE\ne\nE\ne\nE\ne\nG\ng\nG\ng\nG\ng\nG\ng\nH\nh"),
   (296, 9, "I\ni\nI\ni\nI\ni\nI\ni\nI"),
   (306, 6, "IJ\nij\nJ\nj\nK\nk"),
   (313, 8, "L\nl\nL\nl\nL\nl\nL\nl"),
   (323, 7, "N\nn\nN\nn\nN\nn\nn"),
   (332, 6, "O\no\nO\no\nO\no"),
   (340, 18, "R\nr\nR\nr\nR\nr\nS\ns\nS\ns\nS\ns\nS\ns\nT\nt\nT\nt"),
   (360, 24, "U\nu\nU\nu\nU\nu\nU\nu\nU\nu\nU\nu\nW\nw\nY\ny\nY\nZ\nz\nZ\nz\nZ\nz\ns"),
   (416, 2, "O\no"),
   (431, 2, "U\nu"),
   (452, 23, "DZ\nDz\ndz\nLJ\nLj\nlj\nNJ\nNj\nnj\nA\na\nI\ni\nO\no\nU\nu\nU\nu\nU\nu\nU\nu"),
   (475, 2, "U\nu"),
   (478, 4, "A\na\nA\na"),
   (486, 8, "G\ng\nK\nk\nO\no\nO\no"),
   (496, 6, "j\nDZ\nDz\ndz\nG\ng"),
   (504, 4, "N\nn\nA\na"),
   (512, 26, "A\na\nA\na\nE\ne\nE\ne\nI\ni\nI\ni\nO\no\nO\no\nR\nr\nR\nr\nU\nu\nU\nu\nS\ns"),
   (538, 2, "T\nt"),
   (542, 2, "H\nh"),
   (550, 14, "A\na\nE\ne\nO\no\nO\no\nO\no\nO\no\nY\ny"),
   (688, 1, "h"),
   (690, 2, "j\nr"),
   (695, 2, "w\ny"),
   (728, 6, " \n \n \n \n \n "),
   (737, 3, "l\ns\nx"),
   (890, 1, " "),
   (894, 1, ";"),
   (900, 2, " \n "),
   (7468, 1, "A"),
   (7470, 1, "B"),
   (7472, 2, "D\nE"),
   (7475, 8, "G\nH\nI\nJ\nK\nL\nM\nN"),
   (7484, 1, "O"),
   (7486, 6, "P\nR\nT\nU\nW\na"),
   (7495, 3, "b\nd\ne"),
   (7501, 1, "g"),
   (7503, 2, "k\nm"),
   (7506, 1, "o"),
   (7510, 3, "p\nt\nu"),
   (7515, 1, "v"),
   (7522, 4, "i\nr\nu\nv"),
   (7580, 1, "c"),
   (7584, 1, "f"),
   (7611, 1, "z"),
   (7680, 26, "A\na\nB\nb\nB\nb\nB\nb\nC\nc\nD\nd\nD\nd\nD\nd\nD\nd\nD\nd\nE\ne\nE\ne\nE\ne"),
   (7706, 26, "E\ne\nE\ne\nF\nf\nG\ng\nH\nh\nH\nh\nH\nh\nH\nh\nH\nh\nI\ni\nI\ni\nK\nk\nK\nk"),
   (7732, 26, "K\nk\nL\nl\nL\nl\nL\nl\nL\nl\nM\nm\nM\nm\nM\nm\nN\nn\nN\nn\nN\nn\nN\nn\nO\no"),
   (7758, 26, "O\no\nO\no\nO\no\nP\np\nP\np\nR\nr\nR\nr\nR\nr\nR\nr\nS\ns\nS\ns\nS\ns\nS\ns"),
   (7784, 26, "S\ns\nT\nt\nT\nt\nT\nt\nT\nt\nU\nu\nU\nu\nU\nu\nU\nu\nU\nu\nV\nv\nV\nv\nW\nw"),
   (7810, 26, "W\nw\nW\nw\nW\nw\nW\nw\nX\nx\nX\nx\nY\ny\nZ\nz\nZ\nz\nZ\nz\nh\nt\nw\ny\na\ns"),
   (7840, 26, "A\na\nA\na\nA\na\nA\na\nA\na\nA\na\nA\na\nA\na\nA\na\nA\na\nA\na\nA\na\nE\ne"),
   (7866, 26, "E\ne\nE\ne\nE\ne\nE\ne\nE\ne\nE\ne\nE\ne\nI\ni\nI\ni\nO\no\nO\no\nO\no\nO\no"),
   (7892, 26, "O\no\nO\no\nO\no\nO\no\nO\no\nO\no\nO\no\nO\no\nU\nu\nU\nu\nU\nu\nU\nu\nU\nu"),
   (7918, 12, "U\nu\nU\nu\nY\ny\nY\ny\nY\ny\nY\ny"),
   (8125, 1, " "),
   (8127, 3, " \n \n "),
   (8141, 3, " \n \n "),
   (8157, 3, " \n \n "),
   (8173, 3, " \n \n\x60"),
   (8189, 2, " \n "),
   (8192, 11, " \n \n \n \n \n \n \n \n \n \n "),
   (8215, 1, " "),
   (8228, 3, ".\n..\n..."),
   (8239, 1, " "),
   (8252, 1, "!!"),
   (8254, 1, " "),
   (8263, 3, "??\n?!\n!?"),
   (8287, 1, " "),
   (8304, 2, "0\ni"),
   (8308, 7, "4\n5\n6\n7\n8\n9\n+"),
   (8316, 15, "=\n(\n)\nn\n0\n1\n2\n3\n4\n5\n6\n7\n8\n9\n+"),
   (8332, 3, "=\n(\n)"),
   (8336, 4, "a\ne\no\nx"),
   (8341, 8, "h\nk\nl\nm\nn\np\ns\nt"),
   (8360, 1, "Rs"),
   (8448, 4, "a/c\na/s\nC\nC"),
   (8453, 2, "c/o\nc/u"),
   (8457, 6, "F\ng\nH\nH\nH\nh"),
   (8464, 4, "I\nI\nL\nl"),
   (8469, 2, "N\nNo"),
   (8473, 5, "P\nQ\nR\nR\nR"),
   (8480, 3, "SM\nTEL\nTM"),
   (8484, 1, "Z"),
   (8488, 1, "Z"),
   (8490, 4, "K\nA\nB\nC"),
   (8495, 3, "e\nE\nF"),
   (8499, 2, "M\no"),
   (8505, 1, "i"),
   (8507, 1, "FAX"),
   (8517, 5, "D\nd\ne\ni\nj"),
   (8528, 20, "17\n19\n110\n13\n23\n15\n25\n35\n45\n16\n56\n18\n38\n58\n78\n1\nI\nII\nIII\nIV"),
   (8548, 20, "V\nVI\nVII\nVIII\nIX\nX\nXI\nXII\nL\nC\nD\nM\ni\nii\niii\niv\nv\nvi\nvii\nviii"),
   (8568, 8, "ix\nx\nxi\nxii\nl\nc\nd\nm"),
   (8585, 1, "03"),
   (8800, 1, "="),
   (8814, 2, "<\n>"),
   (9312, 22, "1\n2\n3\n4\n5\n6\n7\n8\n9\n10\n11\n12\n13\n14\n15\n16\n17\n18\n19\n20\n(1)\n(2)"),
   (9334, 15, "(3)\n(4)\n(5)\n(6)\n(7)\n(8)\n(9)\n(10)\n(11)\n(12)\n(13)\n(14)\n(15)\n(16)\n(17)"),
   (9349, 17, "(18)\n(19)\n(20)\n1.\n2.\n3.\n4.\n5.\n6.\n7.\n8.\n9.\n10.\n11.\n12.\n13.\n14."),
   (9366, 16, "15.\n16.\n17.\n18.\n19.\n20.\n(a)\n(b)\n(c)\n(d)\n(e)\n(f)\n(g)\n(h)\n(i)\n(j)"),
   (9382, 16, "(k)\n(l)\n(m)\n(n)\n(o)\n(p)\n(q)\n(r)\n(s)\n(t)\n(u)\n(v)\n(w)\n(x)\n(y)\n(z)"),
   (9398, 26, "A\nB\nC\nD\nE\nF\nG\nH\nI\nJ\nK\nL\nM\nN\nO\nP\nQ\nR\nS\nT\nU\nV\nW\nX\nY\nZ"),
   (9424, 26, "a\nb\nc\nd\ne\nf\ng\nh\ni\nj\nk\nl\nm\nn\no\np\nq\nr\ns\nt\nu\nv\nw\nx\ny\nz"),
   (9450, 1, "0"),
   (10868, 3, "::=\n==\n==="),
   (11388, 2, "j\nV"),
   (12288, 1, " "),
   (12443, 2, " \n "),
   (12800, 20, "()\n()\n()\n()\n()\n()\n()\n()\n()\n()\n()\n()\n()\n()\n()\n()\n()\n()\n()\n()"),
   (12820, 11, "()\n()\n()\n()\n()\n()\n()\n()\n()\n()\n()"),
   (12832, 20, "()\n()\n()\n()\n()\n()\n()\n()\n()\n()\n()\n()\n()\n()\n()\n()\n()\n()\n()\n()"),
   (12852, 16, "()\n()\n()\n()\n()\n()\n()\n()\n()\n()\n()\n()\n()\n()\n()\n()"),
   (12880, 16, "PTE\n21\n22\n23\n24\n25\n26\n27\n28\n29\n30\n31\n32\n33\n34\n35"),
   (12977, 21, "36\n37\n38\n39\n40\n41\n42\n43\n44\n45\n46\n47\n48\n49\n50\n1\n2\n3\n4\n5\n6"),
   (12998, 10, "7\n8\n9\n10\n11\n12\nHg\nerg\neV\nLTD"),
   (13144, 22, "0\n1\n2\n3\n4\n5\n6\n7\n8\n9\n10\n11\n12\n13\n14\n15\n16\n17\n18\n19\n20\n21"),
   (13166, 13, "22\n23\n24\nhPa\nda\nAU\nbar\noV\npc\ndm\ndm2\ndm3\nIU"),
   (13184, 19, "pA\nnA\nA\nmA\nkA\nKB\nMB\nGB\ncal\nkcal\npF\nnF\nF\ng\nmg\nkg\nHz\nkHz\nMHz"),
   (13203, 19, "GHz\nTHz\nl\nml\ndl\nkl\nfm\nnm\nm\nmm\ncm\nkm\nmm2\ncm2\nm2\nkm2\nmm3\ncm3\nm3"),
   (13222, 18, "km3\nms\nms2\nPa\nkPa\nMPa\nGPa\nrad\nrads\nrads2\nps\nns\ns\nms\npV\nnV\nV\nmV"),
   (13240, 20, "kV\nMV\npW\nnW\nW\nmW\nkW\nMW\nk\nM\na.m.\nBq\ncc\ncd\nCkg\nCo.\ndB\nGy\nha\nHP"),
   (13260, 18, "in\nKK\nKM\nkt\nlm\nln\nlog\nlx\nmb\nmil\nmol\nPH\np.m.\nPPM\nPR\nsr\nSv\nWb"),
   (13278, 22, "Vm\nAm\n1\n2\n3\n4\n5\n6\n7\n8\n9\n10\n11\n12\n13\n14\n15\n16\n17\n18\n19\n20"),
   (13300, 12, "21\n22\n23\n24\n25\n26\n27\n28\n29\n30\n31\ngal"),
   (42994, 3, "C\nF\nQ"),
   (64256, 7, "ff\nfi\nfl\nffi\nffl\nst\nst"),
   (64297, 1, "+"),
   (64606, 6, " \n \n \n \n \n "),
   (65018, 2, "   \n "),
   (65040, 1, ","),
   (65043, 4, ":\n;\n!\n?"),
   (65049, 1, "..."),
   (65072, 1, ".."),
   (65075, 6, "_\n_\n(\n)\n\x7b\n\x7d"),
   (65095, 10, "[\n]\n \n \n \n \n_\n_\n_\n,"),
   (65106, 1, "."),
   (65108, 4, ";\n:\n?\n!"),
   (65113, 4, "(\n)\n\x7b\n\x7d"),
   (65119, 8, "#\n&\n*\n+\n-\n<\n>\n="),
   (65128, 4, "\\\n$\n%\n@"),
   (65136, 1, " "),
   (65138, 1, " "),
   (65140, 1, " "),
   (65142, 1, " "),
   (65144, 1, " "),
   (65146, 1, " "),
   (65148, 1, " "),
   (65150, 1, " "),
   (65281, 25, "!\n\"\n#\n$\n%\n&\n\x27\n(\n)\n*\n+\n,\n-\n.\n/\n0\n1\n2\n3\n4\n5\n6\n7\n8\n9"),
   (65306, 26, ":\n;\n<\n=\n>\n?\n@\nA\nB\nC\nD\nE\nF\nG\nH\nI\nJ\nK\nL\nM\nN\nO\nP\nQ\nR\nS"),
   (65332, 25, "T\nU\nV\nW\nX\nY\nZ\n[\n\\\n]\n^\n_\n\x60\na\nb\nc\nd\ne\nf\ng\nh\ni\nj\nk\nl"),
   (65357, 18, "m\nn\no\np\nq\nr\ns\nt\nu\nv\nw\nx\ny\nz\n\x7b\n|\n\x7d\n~"),
   (65507, 1, " "),
   (67493, 1, "q"),
   (119808, 26, "A\nB\nC\nD\nE\nF\nG\nH\nI\nJ\nK\nL\nM\nN\nO\nP\nQ\nR\nS\nT\nU\nV\nW\nX\nY\nZ"),
   (119834, 26, "a\nb\nc\nd\ne\nf\ng\nh\ni\nj\nk\nl\nm\nn\no\np\nq\nr\ns\nt\nu\nv\nw\nx\ny\nz"),
   (119860, 26, "A\nB\nC\nD\nE\nF\nG\nH\nI\nJ\nK\nL\nM\nN\nO\nP\nQ\nR\nS\nT\nU\nV\nW\nX\nY\nZ"),
   (119886, 7, "a\nb\nc\nd\ne\nf\ng"),
   (119894, 26, "i\nj\nk\nl\nm\nn\no\np\nq\nr\ns\nt\nu\nv\nw\nx\ny\nz\nA\nB\nC\nD\nE\nF\nG\nH"),
   (119920, 26, "I\nJ\nK\nL\nM\nN\nO\nP\nQ\nR\nS\nT\nU\nV\nW\nX\nY\nZ\na\nb\nc\nd\ne\nf\ng\nh"),
   (119946, 19, "i\nj\nk\nl\nm\nn\no\np\nq\nr\ns\nt\nu\nv\nw\nx\ny\nz\nA"),
   (119966, 2, "C\nD"),
   (119970, 1, "G"),
   (119973, 2, "J\nK"),
   (119977, 4, "N\nO\nP\nQ"),
   (119982, 12, "S\nT\nU\nV\nW\nX\nY\nZ\na\nb\nc\nd"),
   (119995, 1, "f"),
   (119997, 7, "h\ni\nj\nk\nl\nm\nn"),
   (120005, 26, "p\nq\nr\ns\nt\nu\nv\nw\nx\ny\nz\nA\nB\nC\nD\nE\nF\nG\nH\nI\nJ\nK\nL\nM\nN\nO"),
   (120031, 26, "P\nQ\nR\nS\nT\nU\nV\nW\nX\nY\nZ\na\nb\nc\nd\ne\nf\ng\nh\ni\nj\nk\nl\nm\nn\no"),
   (120057, 13, "p\nq\nr\ns\nt\nu\nv\nw\nx\ny\nz\nA\nB"),
   (120071, 4, "D\nE\nF\nG"),
   (120077, 8, "J\nK\nL\nM\nN\nO\nP\nQ"),
   (120086, 7, "S\nT\nU\nV\nW\nX\nY"),
   (120094, 26, "a\nb\nc\nd\ne\nf\ng\nh\ni\nj\nk\nl\nm\nn\no\np\nq\nr\ns\nt\nu\nv\nw\nx\ny\nz"),
   (120120, 2, "A\nB"),
   (120123, 4, "D\nE\nF\nG"),
   (120128, 5, "I\nJ\nK\nL\nM"),
   (120134, 1, "O"),
   (120138, 7, "S\nT\nU\nV\nW\nX\nY"),
   (120146, 26, "a\nb\nc\nd\ne\nf\ng\nh\ni\nj\nk\nl\nm\nn\no\np\nq\nr\ns\nt\nu\nv\nw\nx\ny\nz"),
   (120172, 26, "A\nB\nC\nD\nE\nF\nG\nH\nI\nJ\nK\nL\nM\nN\nO\nP\nQ\nR\nS\nT\nU\nV\nW\nX\nY\nZ"),
   (120198, 26, "a\nb\nc\nd\ne\nf\ng\nh\ni\nj\nk\nl\nm\nn\no\np\nq\nr\ns\nt\nu\nv\nw\nx\ny\nz"),
   (120224, 26, "A\nB\nC\nD\nE\nF\nG\nH\nI\nJ\nK\nL\nM\nN\nO\nP\nQ\nR\nS\nT\nU\nV\nW\nX\nY\nZ"),
   (120250, 26, "a\nb\nc\nd\ne\nf\ng\nh\ni\nj\nk\nl\nm\nn\no\np\nq\nr\ns\nt\nu\nv\nw\nx\ny\nz"),
   (120276, 26, "A\nB\nC\nD\nE\nF\nG\nH\nI\nJ\nK\nL\nM\nN\nO\nP\nQ\nR\nS\nT\nU\nV\nW\nX\nY\nZ"),
   (120302, 26, "a\nb\nc\nd\ne\nf\ng\nh\ni\nj\nk\nl\nm\nn\no\np\nq\nr\ns\nt\nu\nv\nw\nx\ny\nz"),
   (120328, 26, "A\nB\nC\nD\nE\nF\nG\nH\nI\nJ\nK\nL\nM\nN\nO\nP\nQ\nR\nS\nT\nU\nV\nW\nX\nY\nZ"),
   (120354, 26, "a\nb\nc\nd\ne\nf\ng\nh\ni\nj\nk\nl\nm\nn\no\np\nq\nr\ns\nt\nu\nv\nw\nx\ny\nz"),
   (120380, 26, "A\nB\nC\nD\nE\nF\nG\nH\nI\nJ\nK\nL\nM\nN\nO\nP\nQ\nR\nS\nT\nU\nV\nW\nX\nY\nZ"),
   (120406, 26, "a\nb\nc\nd\ne\nf\ng\nh\ni\nj\nk\nl\nm\nn\no\np\nq\nr\ns\nt\nu\nv\nw\nx\ny\nz"),
   (120432, 26, "A\nB\nC\nD\nE\nF\nG\nH\nI\nJ\nK\nL\nM\nN\nO\nP\nQ\nR\nS\nT\nU\nV\nW\nX\nY\nZ"),
   (120458, 26, "a\nb\nc\nd\ne\nf\ng\nh\ni\nj\nk\nl\nm\nn\no\np\nq\nr\ns\nt\nu\nv\nw\nx\ny\nz"),
   (120782, 26, "0\n1\n2\n3\n4\n5\n6\n7\n8\n9\n0\n1\n2\n3\n4\n5\n6\n7\n8\n9\n0\n1\n2\n3\n4\n5"),
   (120808, 24, "6\n7\n8\n9\n0\n1\n2\n3\n4\n5\n6\n7\n8\n9\n0\n1\n2\n3\n4\n5\n6\n7\n8\n9"),
   (127232, 11, "0.\n0,\n1,\n2,\n3,\n4,\n5,\n6,\n7,\n8,\n9,"),
   (127248, 16, "(A)\n(B)\n(C)\n(D)\n(E)\n(F)\n(G)\n(H)\n(I)\n(J)\n(K)\n(L)\n(M)\n(N)\n(O)\n(P)"),
   (127264, 15, "(Q)\n(R)\n(S)\n(T)\n(U)\n(V)\n(W)\n(X)\n(Y)\n(Z)\nS\nC\nR\nCD\nWZ"),
   (127280, 26, "A\nB\nC\nD\nE\nF\nG\nH\nI\nJ\nK\nL\nM\nN\nO\nP\nQ\nR\nS\nT\nU\nV\nW\nX\nY\nZ"),
   (127306, 6, "HV\nMV\nSD\nSS\nPPV\nWC"),
   (127338, 3, "MC\nMD\nMR"),
   (127376, 1, "DJ"),
   (130032, 10, "0\n1\n2\n3\n4\n5\n6\n7\n8\n9")]

end CampaignPress.Text
