import PathQuery.Text.Han

/-!
# Characters in Latin letters

How a character outside ASCII is spelled with ASCII letters and digits, script by script: accented
letters lose their marks, letters of other alphabets and syllables are written as they sound, Han
characters are read one by one, and signs become a dash. Marks that go with a letter, and characters
that no spelling is known for, are left out.
-/

namespace PathQuery

/-- Stretches of signs, from the first to the last. -/
def signStretches : List (Nat × Nat) := [
  (0x02B9, 0x02C4), (0x02ED, 0x02FF), (0x034F, 0x035F), (0x0370, 0x0379), (0x037B, 0x0383),
  (0x03F6, 0x03FF), (0x04FA, 0x0530), (0x0557, 0x0560), (0x0588, 0x0590), (0x05C5, 0x05CF),
  (0x05F3, 0x0620), (0x0654, 0x065F), (0x06FF, 0x070E), (0x0747, 0x077F), (0x07B1, 0x07FF),
  (0x0970, 0x0980), (0x09CE, 0x09DB), (0x0A4E, 0x0A58), (0x0A75, 0x0A80), (0x0AD1, 0x0ADF),
  (0x0AF0, 0x0B00), (0x0B4E, 0x0B5B), (0x0B71, 0x0B81), (0x0BCE, 0x0BE6), (0x0BF3, 0x0C00),
  (0x0C4E, 0x0C5F), (0x0C70, 0x0C81), (0x0CCE, 0x0CDD), (0x0CF0, 0x0D01), (0x0D4E, 0x0D5F),
  (0x0D70, 0x0D81), (0x0DE0, 0x0DF1), (0x0DF4, 0x0E00), (0x0E5A, 0x0E80), (0x0EDE, 0x0EFF),
  (0x0FD0, 0x0FFF), (0x105A, 0x109F), (0x10C6, 0x10CF), (0x10F7, 0x10FF), (0x135B, 0x1368),
  (0x137D, 0x139F), (0x13F5, 0x1400), (0x1677, 0x1680), (0x16F1, 0x177F), (0x17EA, 0x1805),
  (0x1878, 0x187F), (0x18A8, 0x18FF), (0x2000, 0x200A), (0x2018, 0x2029), (0x2032, 0x203E),
  (0x2040, 0x2049), (0x204C, 0x2069), (0x208A, 0x209F), (0x20B0, 0x20CF), (0x20E4, 0x20FF),
  (0x2182, 0x21B6), (0x21BB, 0x23FF), (0x2427, 0x243F), (0x244B, 0x245F), (0x24EB, 0x25BB),
  (0x25C0, 0x25FF), (0x2672, 0x2700), (0x2768, 0x2775), (0x27BF, 0x2800), (0x2E80, 0x2EF3),
  (0x2F00, 0x2FD5), (0x2FF0, 0x2FFB), (0x3008, 0x3012), (0x3014, 0x3020), (0x31B8, 0x31FF),
  (0x3242, 0x325F), (0x32B1, 0x32BF), (0x4D00, 0x4DFF), (0xA4C7, 0xA4FF), (0xFB07, 0xFB12),
  (0xFE24, 0xFE32), (0xFE35, 0xFE48), (0xFE50, 0xFE6F), (0xFF00, 0xFF0F), (0xFF5B, 0xFF65),
  (0xFFEF, 0xFFFD)]

/-- Spellings of consecutive characters, from a first one on, separated by blanks, in ascending
order. A point stands for a character that is spelled with nothing. -/
def romanRuns : List (Nat × String) := [
  (0x00A0, "- - C- PS - Y- - SS - -c- a - - . -r- - deg - 2 3 - u P - - 1 o - 1-4 1-2 3-4"),
  (0x00BF, "- A A A A A A AE C E E E E I I I I D N O O O O O x O U U U U Y Th ss a a a a a"),
  (0x00E5, "a ae c e e e e i i i i d n o o o o o - o u u u u y th y A a A a A a C c C c C"),
  (0x010B, "c C c D d D d E e E e E e E e E e G g G g G g G g H h H h I i I i I i I i I i"),
  (0x0132, "IJ ij J j K k k L l L l L l L l L l N n N n N n -n ng NG O o O o O o OE oe R r"),
  (0x0156, "R r R r S s S s S s S s T t T t T t U u U u U u U u U u U u W w Y y Y Z z Z z"),
  (0x017D, "Z z s b B B b 6 6 O C c D D D d d 3 - E F f G G hv I I K k l l W N n O O o OI"),
  (0x01A3, "oi P p YR 2 2 SH sh t T t T U u Y V Y y Z z ZH ZH zh zh 2 5 5 ts w - - - - DZ"),
  (0x01C5, "Dz dz LJ Lj lj NJ Nj nj A a I i O o U u U u U u U u U u - A a A a AE ae G g G"),
  (0x01E7, "g K k O o O o ZH zh j DZ Dz dz G g HV W N n A a AE ae O o A a A a E e E e I i"),
  (0x020A, "I i O o O o R r R r U u U u S s T t Y y H h N d OU ou Z z A a E e O o O o O o"),
  (0x0230, "O o Y y l n t j db qp A C c L T s z - - B U - E e J j q q R r Y y a a a b o c"),
  (0x0256, "d d e - - e e e e j g g g g u Y h h i i I l l l lZ W W m n n n o OE O F r r r"),
  (0x027C, "r r r r R R s S j S S t t u U v - w y Y z z Z Z - - - C - B E G H j k L q - -"),
  (0x02A3, "dz dZ dz ts tS tC fN ls lz WW - h h h h j r r r r w y"),
  (0x02C5, "V - V - - - - - _ - - - - - - - V - - V - - - - - R X G l s x -"),
  (0x02EC, "V"),
  (0x0363, "a e i o u c d h m r t v x"),
  (0x0386, "A - E E I - O - U O I A B G D E Z E Th I K L M N Ks O P R - S T U Ph Kh Ps O I"),
  (0x03AB, "U a e e i u a b g d e z e th i k l m n x o p r s s t u ph kh ps o i u o u o -"),
  (0x03D0, "b th U U U ph p - - - St st W w Q q Sp sp Sh sh F f Kh kh H h G g CH ch Ti ti"),
  (0x03F0, "k r s j Th e"),
  (0x0400, "Ie Io Dj Gj Ie Dz I Yi J Lj Nj Tsh Kj I U Dzh A B V G D E Zh Z I I K L M N O P"),
  (0x0420, "R S T U F Kh Ts Ch Sh Shch - Y - E Iu Ia a b v g d e zh z i i k l m n o p r s"),
  (0x0442, "t u f kh ts ch sh shch - y - e iu ia ie io dj gj ie dz i yi j lj nj tsh kj i u"),
  (0x045F, "dzh O o E e Ie ie E e Ie ie O o Io io Ks ks Ps ps F f Y y Y y u u O o O o Ot"),
  (0x047F, "ot Q q -1000-"),
  (0x0487, "- -100-000- -1-000-000- - - - - R- r- G- g- G- g- G- g- Zh- zh- Z- z- K- k- K-"),
  (0x049D, "k- K- k- K- k- N- n- Ng ng P- p- Kh kh S- s- T- t- U u U- u- Kh- kh- Tts tts"),
  (0x04B6, "Ch- ch- Ch- ch- H h Ch ch Ch- ch- - Zh zh K- k- - - N- n- - - Ch ch - - - a a"),
  (0x04D2, "A a Ae ae Ie ie - - - - Zh zh Z z Dz dz I i I i O o O o O o E e U u U u U u Ch"),
  (0x04F5, "ch - - Y y"),
  (0x0531, "A B G D E Z E E T- Zh I L Kh Ts K H Dz Gh Ch M Y N Sh O Ch- P J Rh S V T R Ts-"),
  (0x0552, "W P- K- O F"),
  (0x0561, "a b g d e z e e t- zh i l kh ts k h dz gh ch m y n sh o ch- p j rh s v t r ts-"),
  (0x0582, "w p- k- o f ew"),
  (0x05A2, "-"),
  (0x05B0, "- e a o i e e a a o - u - . - . - . . -"),
  (0x05D1, "b g d h v z kh t y k k l m m n n s - p p ts ts q r sh t - - - - - V oy i ."),
  (0x0622, "a - w- . y- . b - t th j H kh d dh r z s sh S D T Z - G - - - - - . f q k l m"),
  (0x0646, "n h w - y an un in a u i W"),
  (0x0660, "0 1 2 3 4 5 6 7 8 9 - - - - - - . - - - . - -w -u -y tt tth b t T p th bh -h H"),
  (0x0683, "ny dy H ch cch dd D D Dt dh ddh d D D rr R R R R R R j R S S S S S T GH F F F"),
  (0x06A4, "v f ph Q Q kh k K K ng K g G N G G G L L L L N N N N N h Ch hy h H - W oe oe u"),
  (0x06C8, "yu yu W v y Y Y W . . y y- - ae"),
  (0x06DD, "- -"),
  (0x06E9, "-"),
  (0x06EE, "- - 0 1 2 3 4 5 6 7 8 9 Sh D Gh - -m ."),
  (0x0710, "- . b g g d d h w z H t t y yh k l m n s s - p p S q r sh t - - - a a a A A A"),
  (0x0736, "e e e E i i u u u o . - - . . X Q"),
  (0x0780, "h sh n r b L k - v m f dh th l g ny s d z t y p j ch tt hh kh th z sh s d t z"),
  (0x07A2, "- gh q w a aa i ee u oo e ey o oa"),
  (0x0900, "- N N H - a aa i ii u uu R L eN e e ai oN o o au k kh g gh ng c ch j jh ny tt"),
  (0x0920, "tth dd ddh nn t th d dh n nnn p ph b bh m y r rr l l lll v sh ss s h - - - -"),
  (0x093E, "aa i ii u uu R RR eN e e ai oN o o au . - - AUM - - - - - - - q khh ghh z dddh"),
  (0x095D, "rh f yy RR LL L LL - - 0 1 2 3 4 5 6 7 8 9"),
  (0x0981, "N N H - a aa i ii u uu R RR - - e ai - - o au k kh g gh ng c ch j jh ny tt tth"),
  (0x09A1, "dd ddh nn t th d dh n - p ph b bh m y r - l - - - sh ss s h - - - - aa i ii u"),
  (0x09C2, "uu R RR - - e ai - - o au"),
  (0x09DC, "rr rh - yy RR LL L LL - - 0 1 2 3 4 5 6 7 8 9 r- r- Rs Rs 1- 2- 3- 4- -1-1-"),
  (0x09F9, "-16 . - - - - - - - N - - a aa i ii u uu - - - - ee ai - - oo au k kh g gh ng"),
  (0x0A1A, "c ch j jh ny tt tth dd ddh nn t th d dh n - p ph b bb m y r - l ll - v sh - s"),
  (0x0A39, "h - - - - aa i ii u uu - - - - ee ai - - oo au"),
  (0x0A59, "khh ghh z rr - f - - - - - - - 0 1 2 3 4 5 6 7 8 9 N H . . G-E-O-"),
  (0x0A81, "N N H - a aa i ii u uu R - eN - e ai oN - o au k kh g gh ng c ch j jh ny tt"),
  (0x0AA0, "tth dd ddh nn t th d dh n - p ph b bh m ya r - l ll - v sh ss s h - - - - aa i"),
  (0x0AC0, "ii u uu R RR eN - e ai oN - o au . - - AUM"),
  (0x0AE0, "RR - - - - - 0 1 2 3 4 5 6 7 8 9"),
  (0x0B01, "N N H - a aa i ii u uu R L - - e ai - - o au k kh g gh ng c ch j jh ny tt tth"),
  (0x0B21, "dd ddh nn t th d dh n - p ph b bh m y r - l ll - . sh ss s h - - - - aa i ii u"),
  (0x0B42, "uu R - - - e ai - - o au"),
  (0x0B5C, "rr rh - yy RR LL - - - - 0 1 2 3 4 5 6 7 8 9"),
  (0x0B82, "N H - a aa i ii u uu - - - e ee ai - o oo au k - - - ng c - j - ny tt - - - nn"),
  (0x0BA4, "t - - - n nnn p - - - m y r rr l ll lll v - ss s h - - - - aa i ii u uu - - -"),
  (0x0BC6, "e ee ai - o oo au"),
  (0x0BE7, "1 2 3 4 5 6 7 8 9 -10- -100- -1000-"),
  (0x0C01, "N N H - a aa i ii u uu R L - e ee ai - o oo au k kh g gh ng c ch j jh ny tt"),
  (0x0C20, "tth dd ddh nn t th d dh n - p ph b bh m y r rr l ll - v sh ss s h - - - - aa i"),
  (0x0C40, "ii u uu R RR - e ee ai - o oo au"),
  (0x0C60, "RR LL - - - - 0 1 2 3 4 5 6 7 8 9"),
  (0x0C82, "N H - a aa i ii u uu R L - e ee ai - o oo au k kh g gh ng c ch j jh ny tt tth"),
  (0x0CA1, "dd ddh nn t th d dh n - p ph b bh m y r rr l ll - v sh ss s h - - - - aa i ii"),
  (0x0CC1, "u uu R RR - e ee ai - o oo au"),
  (0x0CDE, "lll - RR LL - - - - 0 1 2 3 4 5 6 7 8 9"),
  (0x0D02, "N H - a aa i ii u uu R L - e ee ai - o oo au k kh g gh ng c ch j jh ny tt tth"),
  (0x0D21, "dd ddh nn t th d dh n - p ph b bh m y r rr l ll lll v sh ss s h - - - - aa i"),
  (0x0D40, "ii u uu R - - e ee ai . o oo au"),
  (0x0D60, "RR LL - - - - 0 1 2 3 4 5 6 7 8 9"),
  (0x0D82, "N H - a aa ae aae i ii u uu R RR L LL e ee ai o oo au - - - k kh g gh ng nng c"),
  (0x0DA1, "ch j jh ny jny nyj tt tth dd ddh nn nndd t th d dh n - nd p ph b bh m mb y r -"),
  (0x0DBD, "l - - v sh ss s h ll f - - - . - - - - aa ae aae i ii u - uu - R e ee ai o oo"),
  (0x0DDE, "au L"),
  (0x0DF2, "RR LL"),
  (0x0E01, "k kh kh kh kh kh ng cch ch ch ch ch y d t th th th n d t th th th n b p ph f"),
  (0x0E1E, "ph f ph m y r R l L w s s s h l - h - a a aa am i ii ue uue u uu - - - - - Bh-"),
  (0x0E40, "e ae o ai ai ao -"),
  (0x0E4D, "M . - 0 1 2 3 4 5 6 7 8 9"),
  (0x0E81, "k kh - kh - - ng ch - s - - ny - - - - - - d h th th - n b p ph f ph f - m y r"),
  (0x0EA4, "- l - w - - s h - - . - a . aa am i ii y yy u uu - o l ny - - e ei o ay ai - -"),
  (0x0EC7, "-"),
  (0x0ECD, "M - - 0 1 2 3 4 5 6 7 8 9 - - hn hm"),
  (0x0F00, "AUM"),
  (0x0F08, "- - . - - - - - - X- -XX- -X- -"),
  (0x0F20, "0 1 2 3 4 5 6 7 8 9 -5 1-5 2-5 3-5 4-5 5-5 6-5 7-5 8-5 -5 - - - _ . - - - - -"),
  (0x0F3E, ". . k kh g gh ng c ch j - ny tt tth dd ddh nn t th d dh n p ph b bh m ts tsh"),
  (0x0F5B, "dz dzh w zh z - y r l sh ssh s h a kss r - - - - - - aa i ii u uu R RR L LL e"),
  (0x0F7B, "ee o oo M H i ii"),
  (0x0F8C, "- - - - k kh g gh ng c ch j - ny tt tth dd ddh nn t th d dh n p ph b bh m ts"),
  (0x0FAA, "tsh dz dzh w zh z - y r l sh ss s h a kss w y r - X -X- -O- -o- -o- -O-"),
  (0x0FCD, "- -"),
  (0x1000, "k kh g gh ng c ch j jh ny nny tt tth dd ddh nn tt th d dh n p ph b bh m y r l"),
  (0x101D, "w s h ll a - i ii u uu e - o au - aa i ii u uu e ai - - - N - - . - - - - - -"),
  (0x1040, "0 1 2 3 4 5 6 7 8 9 - - n- r- l- e- sh ss R RR L LL R RR L LL"),
  (0x10A0, "A B G D E V Z T- I K L M N O P Zh R S T U P- K- G- Q Sh Ch- C- Z- C Ch X J H E"),
  (0x10C2, "Y W Xh OE"),
  (0x10D0, "a b g d e v z t- i k l m n o p zh r s t u p- k- g- q sh ch- c- z- c ch x j h e"),
  (0x10F2, "y w xh oe f"),
  (0x1100, "g gg n d dd r m b bb s ss . j jj c k t p h ng nn nd nb dg rn rr rh rN mb mN bg"),
  (0x111F, "bn . bs bsg bst bsb bss bsj bj bc bt bp bN bbN sg sn sd sr sm sb sbg sss s sj"),
  (0x1137, "sc sk st sp sh"),
  (0x1140, "Z g d m b s Z . j c t p N j"),
  (0x1152, "ck ch . . pb pN hh Q - - - - - . . a ae ya yae eo e yeo ye o wa wae oe yo u"),
  (0x116F, "weo we wi yu eu yi i a-o a-u ya-o ya-yo eo-o eo-u eo-eu yeo-o yeo-u o-eo o-e"),
  (0x1181, "o-ye o-o o-u yo-ya yo-yae yo-yeo yo-o yo-i u-a u-ae u-eo-eu u-ye u-u yu-a"),
  (0x118F, "yu-eo yu-e yu-yeo yu-ye yu-u yu-i eu-u eu-eu yi-u i-a i-ya i-o i-u i-eu i-U U"),
  (0x119F, "U-eo U-u U-i UU - - - - - g gg gs n nj nh d l lg lm lb ls lt lp lh m b bs s ss"),
  (0x11BC, "ng j c k t p h gl gsg ng nd ns nZ nt dg tl lgs ln ld lth ll lmg lms lbs lbh"),
  (0x11D5, "rNp lss lZ lk lQ mg ml mb ms mss mZ mc mh mN bl bp ph pN sg sd sl sb Z g ss ."),
  (0x11EF, "kh N Ns NZ pb pN hn hl hm hb Q - - - - - - ha hu hi haa hee he ho - la lu li"),
  (0x120B, "laa lee le lo lwa hha hhu hhi hhaa hhee hhe hho hhwa ma mu mi maa mee me mo"),
  (0x121F, "mwa sza szu szi szaa szee sze szo szwa ra ru ri raa ree re ro rwa sa su si saa"),
  (0x1234, "see se so swa sha shu shi shaa shee she sho shwa qa qu qi qaa qee qe qo - qwa"),
  (0x1249, "- qwi qwaa qwee qwe - - qha qhu qhi qhaa qhee qhe qho - qhwa - qhwi qhwaa"),
  (0x125C, "qhwee qhwe - - ba bu bi baa bee be bo bwa va vu vi vaa vee ve vo vwa ta tu ti"),
  (0x1273, "taa tee te to twa ca cu ci caa cee ce co cwa xa xu xi xaa xee xe xo - xwa -"),
  (0x128A, "xwi xwaa xwee xwe - - na nu ni naa nee ne no nwa nya nyu nyi nyaa nyee nye nyo"),
  (0x129F, "nywa -a -u -i -aa -ee -e -o -wa ka ku ki kaa kee ke ko - kwa - kwi kwaa kwee"),
  (0x12B5, "kwe - - kxa kxu kxi kxaa kxee kxe kxo - kxwa - kxwi kxwaa kxwee kxwe - - wa wu"),
  (0x12CA, "wi waa wee we wo - -a -u -i -aa -ee -e -o - za zu zi zaa zee ze zo zwa zha zhu"),
  (0x12E2, "zhi zhaa zhee zhe zho zhwa ya yu yi yaa yee ye yo - da du di daa dee de do dwa"),
  (0x12F8, "dda ddu ddi ddaa ddee dde ddo ddwa ja ju ji jaa jee je jo jwa ga gu gi gaa gee"),
  (0x130D, "ge go - gwa - gwi gwaa gwee gwe - - gga ggu ggi ggaa ggee gge ggo - tha thu"),
  (0x1322, "thi thaa thee the tho thwa cha chu chi chaa chee che cho chwa pha phu phi phaa"),
  (0x1334, "phee phe pho phwa tsa tsu tsi tsaa tsee tse tso tswa tza tzu tzi tzaa tzee tze"),
  (0x1346, "tzo - fa fu fi faa fee fe fo fwa pa pu pi paa pee pe po pwa rya mya fya"),
  (0x1369, "1 2 3 4 5 6 7 8 9 10- 20- 30- 40- 50- 60- 70- 80- 90- 100- 10-000-"),
  (0x13A0, "a e i o u v ga ka ge gi go gu gv ha he hi ho hu hv la le li lo lu lv ma me mi"),
  (0x13BC, "mo mu na hna nah ne ni no nu nv qua que qui quo quu quv sa s se si so su sv da"),
  (0x13D4, "ta de te di ti do du dv dla tla tle tli tlo tlu tlv tsa tse tsi tso tsu tsv wa"),
  (0x13EA, "we wi wo wu wv ya ye yi yo yu yv"),
  (0x1401, "e aai i ii o oo oo ee i a aa we we wi wi wii wii wo wo woo woo woo wa wa waa"),
  (0x141A, "waa waa ai w - t k sh s n w n - w c - l en in on an pe paai pi pii po poo poo"),
  (0x1436, "hee hi pa paa pwe pwe pwi pwi pwii pwii pwo pwo pwoo pwoo pwa pwa pwaa pwaa"),
  (0x1448, "pwaa p p h te taai ti tii to too too dee di ta taa twe twe twi twi twii twii"),
  (0x145D, "two two twoo twoo twa twa twaa twaa twaa t tte tti tto tta ke kaai ki kii ko"),
  (0x1470, "koo koo ka kaa kwe kwe kwi kwi kwii kwii kwo kwo kwoo kwoo kwa kwa kwaa kwaa"),
  (0x1482, "kwaa k kw keh kih koh kah ce caai ci cii co coo coo ca caa cwe cwe cwi cwi"),
  (0x1496, "cwii cwii cwo cwo cwoo cwoo cwa cwa cwaa cwaa cwaa c th me maai mi mii mo moo"),
  (0x14A9, "moo ma maa mwe mwe mwi mwi mwii mwii mwo mwo mwoo mwoo mwa mwa mwaa mwaa mwaa"),
  (0x14BB, "m m mh m m ne naai ni nii no noo noo na naa nwe nwe nwa nwa nwaa nwaa nwaa n"),
  (0x14D1, "ng nh le laai li lii lo loo loo la laa lwe lwe lwi lwi lwii lwii lwo lwo lwoo"),
  (0x14E5, "lwoo lwa lwa lwaa lwaa l l l se saai si sii so soo soo sa saa swe swe swi swi"),
  (0x14FA, "swii swii swo swo swoo swoo swa swa swaa swaa swaa s s sw s sk skw sW spwa"),
  (0x150D, "stwa skwa scwa she shi shii sho shoo sha shaa shwe shwe shwi shwi shwii shwii"),
  (0x151D, "shwo shwo shwoo shwoo shwa shwa shwaa shwaa sh ye yaai yi yii yo yoo yoo ya"),
  (0x152E, "yaa ywe ywe ywi ywi ywii ywii ywo ywo ywoo ywoo ywa ywa ywaa ywaa ywaa y y y"),
  (0x1541, "yi re re le raai ri rii ro roo lo ra raa la rwaa rwaa r r r fe faai fi fii fo"),
  (0x1558, "foo fa faa fwaa fwaa f the the thi thi thii thii tho thoo tha thaa thwaa thwaa"),
  (0x156A, "th tthe tthi ttho ttha tth tye tyi tyo tya he hi hii ho hoo ha haa h h hk qaai"),
  (0x157F, "qi qii qo qoo qa qaa q tlhe tlhi tlho tlha re ri ro ra ngaai ngi ngii ngo ngoo"),
  (0x1593, "nga ngaa ng nng she shi sho sha the thi tho tha th lhi lhii lho lhoo lha lhaa"),
  (0x15A6, "lh the thi thii tho thoo tha thaa th b e i o a we wi wo wa ne ni no na ke ki"),
  (0x15BE, "ko ka he hi ho ha ghu gho ghe ghee ghi gha ru ro re ree ri ra wu wo we wee wi"),
  (0x15D5, "wa hwu hwo hwe hwee hwi hwa thu tho the thee thi tha ttu tto tte ttee tti tta"),
  (0x15E8, "pu po pe pee pi pa p gu go ge gee gi ga khu kho khe khee khi kha kku kko kke"),
  (0x15FE, "kkee kki kka kk nu no ne nee ni na mu mo me mee mi ma yu yo ye yee yi ya ju ju"),
  (0x1616, "jo je jee ji ji ja jju jjo jje jjee jji jja lu lo le lee li la dlu dlo dle"),
  (0x162B, "dlee dli dla lhu lho lhe lhee lhi lha tlhu tlho tlhe tlhee tlhi tlha tlu tlo"),
  (0x163C, "tle tlee tli tla zu zo ze zee zi za z z dzu dzo dze dzee dzi dza su so se see"),
  (0x1652, "si sa shu sho she shee shi sha sh tsu tso tse tsee tsi tsa chu cho che chee"),
  (0x1665, "chi cha ttsu ttso ttse ttsee ttsi ttsa X - qai ngai nngi nngii nngo nngoo nnga"),
  (0x1676, "nngaa"),
  (0x1681, "b l f s n h d t c q m g ng z r a o u e i ch th ph p x p - - - - - f v u yr y w"),
  (0x16A6, "th th a o ac ae o o o oe on r k c k g ng g g w h h h h n n n i e j g ae a eo p"),
  (0x16C9, "z s s s c z t t d b b p p e m m m l l ng ng d o ear ior qu qu qu s yr yr yr q"),
  (0x16EA, "x - - - 17 18 19"),
  (0x1780, "k kh g gh ng c ch j jh ny t tth d ddh nn t th d dh n p ph b bh m y r l v sh ss"),
  (0x179F, "s h l q a aa i ii u uk uu uuv ry ryy ly lyy e ai oo oo au a aa aa i ii y yy u"),
  (0x17BC, "uu ua oe ya ie e ae ai oo au M H a- . . . r . -"),
  (0x17D5, "- - - - - - - KR - - - 0 1 2 3 4 5 6 7 8 9 ."),
  (0x1807, "- - -"),
  (0x180F, "- 0 1 2 3 4 5 6 7 8 9 - - - - - - a e i o u O U ee n ng b p q g m l s sh t d"),
  (0x1834, "ch j y r w f k kha ts z h zr lh zh ch - e i o u O U ng b p q g m t d ch j ts y"),
  (0x1856, "w k g h jy ny dz e i iy U u ng k g h p sh t d j f g h ts z r ch zh i k r f zh"),
  (0x1880, "H X W M -3- -333- a i k ng c tt tth dd nn t d p ph ss zh z a t zh gh ng c jh"),
  (0x189D, "tta ddh t dh ss cy zh z u y bh"),
  (0x1E00, "A a B b B b B b C c D d D d D d D d D d E e E e E e E e E e F f G g H h H h H"),
  (0x1E27, "h H h H h I i I i K k K k K k L l L l L l L l M m M m M m N n N n N n N n O o"),
  (0x1E4E, "O o O o O o P p P p R r R r R r R r S s S s S s S s S s T t T t T t T t U u U"),
  (0x1E75, "u U u U u U u V v V v W w W w W w W w W w X x X x Y y Z z Z z Z z h t w y a S"),
  (0x1E9C, "- - - - A a A a A a A a A a A a A a A a A a A a A a A a E e E e E e E e E e E"),
  (0x1EC3, "e E e E e I i I i O o O o O o O o O o O o O o O o O o O o O o O o U u U u U u"),
  (0x1EEA, "U u U u U u U u Y y Y y Y y Y y - - - - -"),
  (0x1F00, "a a a a a a a a A A A A A A A A e e e e e e - - E E E E E E - - e e e e e e e"),
  (0x1F27, "e E E E E E E E E i i i i i i i i I I I I I I I I o o o o o o - - O O O O O O"),
  (0x1F4E, "- - u u u u u u u u - U - U - U - U o o o o o o o o O O O O O O O O a a e e e"),
  (0x1F75, "e i i o o u u o o - - a a a a a a a a A A A A A A A A e e e e e e e e E E E E"),
  (0x1F9C, "E E E E o o o o o o o o O O O O O O O O a a a a a - a a A A A A A - i - - - e"),
  (0x1FC3, "e e - e e E E E E E - - - i i i i - - i i I I I I - - - - u u u u r r u u U U"),
  (0x1FEA, "U U R - - - - - o o o - o o O O O O O - -"),
  (0x2010, "- - - - - - - _"),
  (0x202F, "- -0 -00"),
  (0x203F, "_"),
  (0x204A, "7 PP"),
  (0x2070, "0 . . . 4 5 6 7 8 9 - - - - - n 0 1 2 3 4 5 6 7 8 9"),
  (0x20A0, "ECU CL Cr FF L mil N Pts Rs W NS D EUR K T Dr"),
  (0x2102, "C"),
  (0x210D, "H"),
  (0x2115, "N . . . P Q . . R . . -sm- TEL -tm- . Z"),
  (0x212A, "K A . . e e E F F M"),
  (0x2139, "i . FAX"),
  (0x2140, "- - - - - D d e i j - - - - F - - - - -1-3- -2-3- -1-5- -2-5- -3-5- -4-5-"),
  (0x2159, "-1-6- -5-6- -1-8- -3-8- -5-8- -7-8- -1- I II III IV V VI VII VIII IX X XI XII"),
  (0x216C, "L C D M i ii iii iv v vi vii viii ix x xi xii l c d m -D D-"),
  (0x21B7, "V - - V"),
  (0x25BC, "V V V V"),
  (0x2614, "- - - - -"),
  (0x266F, "-"),
  (0x2705, "-"),
  (0x270A, "- -"),
  (0x2728, "-"),
  (0x274C, "-"),
  (0x274E, "-"),
  (0x2753, "- - -"),
  (0x2757, "-"),
  (0x275F, "- -"),
  (0x2795, "- - -"),
  (0x27B0, "-"),
  (0x2801, "a 1 b - k 2 l - c i f - m s p - e 3 h 9 o 6 r - d j g - n t q - - 5 - - u 8 v"),
  (0x2828, "- - - - - x - - - - 4 - 0 z 7 - _ - w - - y - - -d7- -d17- -d27- -d127- -d37-"),
  (0x2845, "-d137- -d237- -d1237- -d47- -d147- -d247- -d1247- -d347- -d1347- -d2347-"),
  (0x284F, "-d12347- -d57- -d157- -d257- -d1257- -d357- -d1357- -d2357- -d12357- -d457-"),
  (0x2859, "-d1457- -d2457- -d12457- -d3457- -d13457- -d23457- -d123457- -d67- -d167-"),
  (0x2862, "-d267- -d1267- -d367- -d1367- -d2367- -d12367- -d467- -d1467- -d2467- -d12467-"),
  (0x286C, "-d3467- -d13467- -d23467- -d123467- -d567- -d1567- -d2567- -d12567- -d3567-"),
  (0x2875, "-d13567- -d23567- -d123567- -d4567- -d14567- -d24567- -d124567- -d34567-"),
  (0x287D, "-d134567- -d234567- -d1234567- -d8- -d18- -d28- -d128- -d38- -d138- -d238-"),
  (0x2887, "-d1238- -d48- -d148- -d248- -d1248- -d348- -d1348- -d2348- -d12348- -d58-"),
  (0x2891, "-d158- -d258- -d1258- -d358- -d1358- -d2358- -d12358- -d458- -d1458- -d2458-"),
  (0x289B, "-d12458- -d3458- -d13458- -d23458- -d123458- -d68- -d168- -d268- -d1268-"),
  (0x28A4, "-d368- -d1368- -d2368- -d12368- -d468- -d1468- -d2468- -d12468- -d3468-"),
  (0x28AD, "-d13468- -d23468- -d123468- -d568- -d1568- -d2568- -d12568- -d3568- -d13568-"),
  (0x28B6, "-d23568- -d123568- -d4568- -d14568- -d24568- -d124568- -d34568- -d134568-"),
  (0x28BE, "-d234568- -d1234568- -d78- -d178- -d278- -d1278- -d378- -d1378- -d2378-"),
  (0x28C7, "-d12378- -d478- -d1478- -d2478- -d12478- -d3478- -d13478- -d23478- -d123478-"),
  (0x28D0, "-d578- -d1578- -d2578- -d12578- -d3578- -d13578- -d23578- -d123578- -d4578-"),
  (0x28D9, "-d14578- -d24578- -d124578- -d34578- -d134578- -d234578- -d1234578- -d678-"),
  (0x28E1, "-d1678- -d2678- -d12678- -d3678- -d13678- -d23678- -d123678- -d4678- -d14678-"),
  (0x28EA, "-d24678- -d124678- -d34678- -d134678- -d234678- -d1234678- -d5678- -d15678-"),
  (0x28F2, "-d25678- -d125678- -d35678- -d135678- -d235678- -d1235678- -d45678- -d145678-"),
  (0x28FA, "-d245678- -d1245678- -d345678- -d1345678- -d2345678- -d12345678-"),
  (0x3000, "- - - - -JIS- - - 0"),
  (0x3013, "X"),
  (0x3021, "1 2 3 4 5 6 7 8 9"),
  (0x3030, "- - - - - . - - -10- -20- -30- - - - . . - a a i i u u e e o o ka ga ki gi ku"),
  (0x3050, "gu ke ge ko go sa za si zi su zu se ze so zo ta da ti di tu tu du te de to do"),
  (0x306A, "na ni nu ne no ha ba pa hi bi pi hu bu pu he be pe ho bo po ma mi mu me mo ya"),
  (0x3084, "ya yu yu yo yo ra ri ru re ro wa wa wi we wo n vu - - - -"),
  (0x309D, "- - - - a a i i u u e e o o ka ga ki gi ku gu ke ge ko go sa za si zi su zu se"),
  (0x30BC, "ze so zo ta da ti di tu tu du te de to do na ni nu ne no ha ba pa hi bi pi hu"),
  (0x30D6, "bu pu he be pe ho bo po ma mi mu me mo ya ya yu yu yo yo ra ri ru re ro wa wa"),
  (0x30F0, "wi we wo n vu ka ke va vi ve vo . . - -"),
  (0x3100, "- - - - - B P M F D T N L G K H J Q X ZH CH SH R Z C S A O E EH AI EI AU OU AN"),
  (0x3123, "EN ANG ENG ER I U IU V NG GN - - - - g gg gs n nj nh d dd r lg lm lb ls lt lp"),
  (0x3140, "rh m b bb bs s ss . j jj c k t p h a ae ya yae eo e yeo ye o wa wae oe yo u"),
  (0x315D, "weo we wi yu eu yi i . nn nd ns nZ lgs ld lbs lZ lQ mb ms mZ mN bg . bsg bst"),
  (0x3176, "bj bt bN bbN sg sn sd sb sj Z . N Ns NZ pN hh Q yo-ya yo-yae yo-i yu-yeo yu-ye"),
  (0x318C, "yu-i U U-i -"),
  (0x31A0, "BU ZI JI GU EE ENN OO ONN IR ANN INN UNN IM NGG AINN AUNN AM OM ONG INNN P T K"),
  (0x31B7, "H"),
  (0x3200, "-g- -n- -d- -r- -m- -b- -s- - -j- -c- -k- -t- -p- -h- -ga- -na- -da- -ra- -ma-"),
  (0x3213, "-ba- -sa- -a- -ja- -ca- -ka- -ta- -pa- -ha- -ju- - - - -1- -2- -3- -4- -5- -6-"),
  (0x3226, "-7- -8- -9- -10- -Yue- -Huo- -Shui- -Mu- -Jin- -Tu- -Ri- -Zhu- -You- -She-"),
  (0x3234, "-Ming- -Te- -Cai- -Zhu- -Lao- -Dai- -Hu- -Xue- -Jian- -Qi- -Zi- -Xie- -Ji-"),
  (0x3241, "-Xiu-"),
  (0x3260, "-g- -n- -d- -r- -m- -b- -s- - -j- -c- -k- -t- -p- -h- -ga- -na- -da- -ra- -ma-"),
  (0x3273, "-ba- -sa- -a- -ja- -ca- -ka- -ta- -pa- -ha- - - - KIS -1- -2- -3- -4- -5- -6-"),
  (0x3286, "-7- -8- -9- -10- -Yue- -Huo- -Shui- -Mu- -Jin- -Tu- -Ri- -Zhu- -You- -She-"),
  (0x3294, "-Ming- -Te- -Cai- -Zhu- -Lao- -Mi- -Nan- -Nu- -Shi- -You- -Yin- -Zhu- -Xiang-"),
  (0x32A1, "-Xiu- -Xie- -Zheng- -Shang- -Zhong- -Xia- -Zuo- -You- -Yi- -Zong- -Xue- -Jian-"),
  (0x32AD, "-Qi- -Zi- -Xie- -Ye-"),
  (0x32C0, "1M 2M 3M 4M 5M 6M 7M 8M 9M 10M 11M 12M - - - - a i u e o ka ki ku ke ko sa si"),
  (0x32DC, "su se so ta ti tu te to na ni nu ne no ha hi hu he ho ma mi mu me mo ya yu yo"),
  (0x32F6, "ra ri ru re ro wa wi we wo - apartment alpha ampere are inning inch won escudo"),
  (0x3308, "acre ounce ohm kai-ri carat calorie gallon gamma giga guinea curie guilder"),
  (0x3314, "kilo kilogram kilometer kilowatt gram gram-ton cruzeiro krone case koruna"),
  (0x331E, "co-op cycle centime shilling centi cent dozen desi dollar ton nano knot"),
  (0x332A, "heights percent parts barrel piaster picul pico building farad feet bushel"),
  (0x3335, "franc hectare peso pfennig hertz pence page beta point volt hon pound hall"),
  (0x3342, "horn micro mile mach mark mansion micron milli millibar mega megaton meter"),
  (0x334E, "yard yard yuan liter lira rupee ruble rem roentgen watt 0h 1h 2h 3h 4h 5h 6h"),
  (0x335F, "7h 8h 9h 10h 11h 12h 13h 14h 15h 16h 17h 18h 19h 20h 21h 22h 23h 24h HPA da AU"),
  (0x3374, "bar oV pc - - - - Heisei Syouwa Taisyou Meiji Inc- pA nA microamp mA kA kB MB"),
  (0x3387, "GB cal kcal pF nF microFarad microgram mg kg Hz kHz MHz GHz THz microliter ml"),
  (0x3397, "dl kl fm nm micrometer mm cm km mm-2 cm-2 m-2 km-2 mm-4 cm-3 m-3 km-3 m-s"),
  (0x33A8, "m-s-2 Pa kPa MPa GPa rad rad-s rad-s-2 ps ns microsecond ms pV nV microvolt mV"),
  (0x33B8, "kV MV pW nW microwatt mW kW MW kOhm MOhm a-m- Bq cc cd C-kg Co- dB Gy ha HP in"),
  (0x33CD, "K-K- KM kt lm ln log lx mb mil mol pH p-m- PPM PR sr Sv Wb - - 1d 2d 3d 4d 5d"),
  (0x33E5, "6d 7d 8d 9d 10d 11d 12d 13d 14d 15d 16d 17d 18d 19d 20d 21d 22d 23d 24d 25d"),
  (0x33F9, "26d 27d 28d 29d 30d 31d -"),
  (0xA000, "it ix i ip iet iex ie iep at ax a ap uox uo uop ot ox o op ex e wu bit bix bi"),
  (0xA019, "bip biet biex bie biep bat bax ba bap buox buo buop bot box bo bop bex be bep"),
  (0xA02C, "but bux bu bup burx bur byt byx by byp byrx byr pit pix pi pip piex pie piep"),
  (0xA03F, "pat pax pa pap puox puo puop pot pox po pop put pux pu pup purx pur pyt pyx py"),
  (0xA053, "pyp pyrx pyr bbit bbix bbi bbip bbiet bbiex bbie bbiep bbat bbax bba bbap"),
  (0xA062, "bbuox bbuo bbuop bbot bbox bbo bbop bbex bbe bbep bbut bbux bbu bbup bburx"),
  (0xA071, "bbur bbyt bbyx bby bbyp nbit nbix nbi nbip nbiex nbie nbiep nbat nbax nba nbap"),
  (0xA081, "nbot nbox nbo nbop nbut nbux nbu nbup nburx nbur nbyt nbyx nby nbyp nbyrx nbyr"),
  (0xA091, "hmit hmix hmi hmip hmiex hmie hmiep hmat hmax hma hmap hmuox hmuo hmuop hmot"),
  (0xA0A0, "hmox hmo hmop hmut hmux hmu hmup hmurx hmur hmyx hmy hmyp hmyrx hmyr mit mix"),
  (0xA0B0, "mi mip miex mie miep mat max ma map muot muox muo muop mot mox mo mop mex me"),
  (0xA0C3, "mut mux mu mup murx mur myt myx my myp fit fix fi fip fat fax fa fap fox fo"),
  (0xA0D7, "fop fut fux fu fup furx fur fyt fyx fy fyp vit vix vi vip viet viex vie viep"),
  (0xA0EA, "vat vax va vap vot vox vo vop vex vep vut vux vu vup vurx vur vyt vyx vy vyp"),
  (0xA0FE, "vyrx vyr dit dix di dip diex die diep dat dax da dap duox duo dot dox do dop"),
  (0xA111, "dex de dep dut dux du dup durx dur tit tix ti tip tiex tie tiep tat tax ta tap"),
  (0xA125, "tuot tuox tuo tuop tot tox to top tex te tep tut tux tu tup turx tur ddit ddix"),
  (0xA138, "ddi ddip ddiex ddie ddiep ddat ddax dda ddap dduox dduo dduop ddot ddox ddo"),
  (0xA147, "ddop ddex dde ddep ddut ddux ddu ddup ddurx ddur ndit ndix ndi ndip ndiex ndie"),
  (0xA157, "ndat ndax nda ndap ndot ndox ndo ndop ndex nde ndep ndut ndux ndu ndup ndurx"),
  (0xA167, "ndur hnit hnix hni hnip hniet hniex hnie hniep hnat hnax hna hnap hnuox hnuo"),
  (0xA176, "hnot hnox hnop hnex hne hnep hnut nit nix ni nip niex nie niep nax na nap nuox"),
  (0xA188, "nuo nuop not nox no nop nex ne nep nut nux nu nup nurx nur hlit hlix hli hlip"),
  (0xA19B, "hliex hlie hliep hlat hlax hla hlap hluox hluo hluop hlox hlo hlop hlex hle"),
  (0xA1AA, "hlep hlut hlux hlu hlup hlurx hlur hlyt hlyx hly hlyp hlyrx hlyr lit lix li"),
  (0xA1BA, "lip liet liex lie liep lat lax la lap luot luox luo luop lot lox lo lop lex le"),
  (0xA1CD, "lep lut lux lu lup lurx lur lyt lyx ly lyp lyrx lyr git gix gi gip giet giex"),
  (0xA1E0, "gie giep gat gax ga gap guot guox guo guop got gox go gop get gex ge gep gut"),
  (0xA1F3, "gux gu gup gurx gur kit kix ki kip kiex kie kiep kat kax ka kap kuox kuo kuop"),
  (0xA206, "kot kox ko kop ket kex ke kep kut kux ku kup kurx kur ggit ggix ggi ggiex ggie"),
  (0xA219, "ggiep ggat ggax gga ggap gguot gguox gguo gguop ggot ggox ggo ggop gget ggex"),
  (0xA228, "gge ggep ggut ggux ggu ggup ggurx ggur mgiex mgie mgat mgax mga mgap mguox"),
  (0xA237, "mguo mguop mgot mgox mgo mgop mgex mge mgep mgut mgux mgu mgup mgurx mgur hxit"),
  (0xA247, "hxix hxi hxip hxiet hxiex hxie hxiep hxat hxax hxa hxap hxuot hxuox hxuo hxuop"),
  (0xA256, "hxot hxox hxo hxop hxex hxe hxep ngiex ngie ngiep ngat ngax nga ngap nguot"),
  (0xA265, "nguox nguo ngot ngox ngo ngop ngex nge ngep hit hiex hie hat hax ha hap huot"),
  (0xA276, "huox huo huop hot hox ho hop hex he hep wat wax wa wap wuox wuo wuop wox wo"),
  (0xA289, "wop wex we wep zit zix zi zip ziex zie ziep zat zax za zap zuox zuo zuop zot"),
  (0xA29C, "zox zo zop zex ze zep zut zux zu zup zurx zur zyt zyx zy zyp zyrx zyr cit cix"),
  (0xA2B0, "ci cip ciet ciex cie ciep cat cax ca cap cuox cuo cuop cot cox co cop cex ce"),
  (0xA2C3, "cep cut cux cu cup curx cur cyt cyx cy cyp cyrx cyr zzit zzix zzi zzip zziet"),
  (0xA2D5, "zziex zzie zziep zzat zzax zza zzap zzox zzo zzop zzex zze zzep zzux zzu zzup"),
  (0xA2E5, "zzurx zzur zzyt zzyx zzy zzyp zzyrx zzyr nzit nzix nzi nzip nziex nzie nziep"),
  (0xA2F4, "nzat nzax nza nzap nzuox nzuo nzox nzop nzex nze nzux nzu nzup nzurx nzur nzyt"),
  (0xA304, "nzyx nzy nzyp nzyrx nzyr sit six si sip siex sie siep sat sax sa sap suox suo"),
  (0xA316, "suop sot sox so sop sex se sep sut sux su sup surx sur syt syx sy syp syrx syr"),
  (0xA32A, "ssit ssix ssi ssip ssiex ssie ssiep ssat ssax ssa ssap ssot ssox sso ssop ssex"),
  (0xA33A, "sse ssep ssut ssux ssu ssup ssyt ssyx ssy ssyp ssyrx ssyr zhat zhax zha zhap"),
  (0xA34A, "zhuox zhuo zhuop zhot zhox zho zhop zhet zhex zhe zhep zhut zhux zhu zhup"),
  (0xA359, "zhurx zhur zhyt zhyx zhy zhyp zhyrx zhyr chat chax cha chap chuot chuox chuo"),
  (0xA368, "chuop chot chox cho chop chet chex che chep chux chu chup churx chur chyt chyx"),
  (0xA378, "chy chyp chyrx chyr rrax rra rruox rruo rrot rrox rro rrop rret rrex rre rrep"),
  (0xA388, "rrut rrux rru rrup rrurx rrur rryt rryx rry rryp rryrx rryr nrat nrax nra nrap"),
  (0xA398, "nrox nro nrop nret nrex nre nrep nrut nrux nru nrup nrurx nrur nryt nryx nry"),
  (0xA3A8, "nryp nryrx nryr shat shax sha shap shuox shuo shuop shot shox sho shop shet"),
  (0xA3B7, "shex she shep shut shux shu shup shurx shur shyt shyx shy shyp shyrx shyr rat"),
  (0xA3C7, "rax ra rap ruox ruo ruop rot rox ro rop rex re rep rut rux ru rup rurx rur ryt"),
  (0xA3DB, "ryx ry ryp ryrx ryr jit jix ji jip jiet jiex jie jiep juot juox juo juop jot"),
  (0xA3ED, "jox jo jop jut jux ju jup jurx jur jyt jyx jy jyp jyrx jyr qit qix qi qip qiet"),
  (0xA401, "qiex qie qiep quot quox quo quop qot qox qo qop qut qux qu qup qurx qur qyt"),
  (0xA413, "qyx qy qyp qyrx qyr jjit jjix jji jjip jjiet jjiex jjie jjiep jjuox jjuo jjuop"),
  (0xA423, "jjot jjox jjo jjop jjut jjux jju jjup jjurx jjur jjyt jjyx jjy jjyp njit njix"),
  (0xA433, "nji njip njiet njiex njie njiep njuox njuo njot njox njo njop njux nju njup"),
  (0xA442, "njurx njur njyt njyx njy njyp njyrx njyr nyit nyix nyi nyip nyiet nyiex nyie"),
  (0xA451, "nyiep nyuox nyuo nyuop nyot nyox nyo nyop nyut nyux nyu nyup xit xix xi xip"),
  (0xA461, "xiet xiex xie xiep xuox xuo xot xox xo xop xyt xyx xy xyp xyrx xyr yit yix yi"),
  (0xA474, "yip yiet yiex yie yiep yuot yuox yuo yuop yot yox yo yop yut yux yu yup yurx"),
  (0xA486, "yur yyt yyx yy yyp yyrx yyr - - - Qot Li Kit Nyip Cyp Ssi Ggop Gep Mi Hxit Lyr"),
  (0xA49B, "Bbut Mop Yo Put Hxuo Tat Ga - - Ddur Bur Gguo Nyop Tu Op Jjut Zot Pyt Hmo Yit"),
  (0xA4AF, "Vur Shy Vep Za Jo - Jjy Got Jjie Wo Du Shur Lie Cy Cuop Cip Hxop Shat - Shop"),
  (0xA4C3, "Che Zziet - Ke"),
  (0xFB00, "ff fi fl ffi ffl st st"),
  (0xFB13, "mn me mi vn mkh - - - - - yi . ay - . d h k l m m t - sh s sh s a a . b g d h"),
  (0xFB35, "v z - t y k k l - l - n n - p p - ts ts r sh t vo b k p l ."),
  (0xFE21, "-"),
  (0xFE33, "_ _"),
  (0xFF10, "0 1 2 3 4 5 6 7 8 9 - - - - - - - A B C D E F G H I J K L M N O P Q R S T U V"),
  (0xFF37, "W X Y Z - - - - _ - a b c d e f g h i j k l m n o p q r s t u v w x y z"),
  (0xFF66, "wo a i u e o ya yu yo tu - a i u e o ka ki ku ke ko sa si su se so ta ti tu te"),
  (0xFF84, "to na ni nu ne no ha hi hu he ho ma mi mu me mo ya yu yo ra ri ru re ro wa n -"),
  (0xFF9F, "- . g gg gs n nj nh d dd r lg lm lb ls lt lp rh m b bb bs s ss . j jj c k t p"),
  (0xFFBE, "h - - - a ae ya yae eo e - - yeo ye o wa wae oe - - yo u weo we wi yu - - eu"),
  (0xFFDB, "yi i - - - -C PS - - - Y- W- - - - - - - - O")]

/-- The leading consonants of hangul syllables. -/
def hangulLeads : List String :=
  ["g", "gg", "n", "d", "dd", "r", "m", "b", "bb", "s", "ss", "", "j", "jj", "c", "k", "t", "p", "h"]

/-- The vowels of hangul syllables. -/
def hangulVowels : List String :=
  ["a", "ae", "ya", "yae", "eo", "e", "yeo", "ye", "o", "wa", "wae", "oe", "yo", "u", "weo", "we",
   "wi", "yu", "eu", "yi", "i"]

/-- The trailing consonants of hangul syllables. -/
def hangulTails : List String :=
  ["", "g", "gg", "gs", "n", "nj", "nh", "d", "l", "lg", "lm", "lb", "ls", "lt", "lp", "lh", "m",
   "b", "bs", "s", "ss", "ng", "j", "c", "k", "t", "p", "h"]

/-- The spelling of a hangul syllable, by its place among them. -/
def romanizeHangul (i : Nat) : String :=
  hangulLeads.getD (i / 588) "" ++ hangulVowels.getD (i / 28 % 21) "" ++
    hangulTails.getD (i % 28) ""

/-- The spelling of a code point in the run that it belongs to. -/
def romanInRuns (n : Nat) : String :=
  match romanRuns.reverse.find? (·.1 ≤ n) with
  | none => ""
  | some (first, run) =>
    match (run.splitOn " ")[n - first]? with
    | some "." | none => ""
    | some spelling => spelling

/-- A character in ASCII letters and digits. The reading of a Han character is a word of its own. -/
def romanize (c : Char) : String :=
  let n := c.toNat
  if n < 0x80 then String.singleton c
  else if 0xAC00 ≤ n && n ≤ 0xD7A3 then romanizeHangul (n - 0xAC00)
  else if isHan n then (hanReading? c).getD "" ++ "-"
  else if signStretches.any fun (first, last) ↦ first ≤ n && n ≤ last then "-"
  else romanInRuns n

end PathQuery
