/-!
# The record of civil clocks

For every region of the zone database: its names, the clocks it has used as `offset/abbreviation`,
the changes between them, and the rule that holds after the last change. A change is written as
the seconds since the change before it, in base 36, followed by a letter for the clock it leads to;
the first is counted from the start of 1970.
-/

namespace PathQuery

/-- The recorded clocks of one region. -/
structure ZoneRecord where
  /-- The names of the region. -/
  names : List String
  /-- The clocks it has used, separated by blanks, the first being the one before every change. -/
  clocks : String
  /-- The changes in order, separated by blanks within a line. -/
  changes : List String
  /-- The rule in force after the last change. -/
  rule : String
  deriving Inhabited

namespace ZoneRecord

/-- The regions filed under Africa. -/
def africa : List ZoneRecord := [
  ⟨["Africa/Abidjan", "Africa/Accra", "Africa/Bamako", "Africa/Banjul", "Africa/Conakry",
    "Africa/Dakar", "Africa/Freetown", "Africa/Lome", "Africa/Nouakchott", "Africa/Ouagadougou",
    "Africa/Timbuktu", "Atlantic/Reykjavik", "Atlantic/St_Helena", "Iceland"],
    "-968/LMT 0/GMT",
    ["-u9rgl4B"],
    "GMT0"⟩,
  ⟨["Africa/Algiers"],
    "732/LMT 561/PMT 0/WET 3600/WEST 3600/CET 7200/CEST",
    ["-154gb8cB afgo4rC 2qx1nlD 5luo0C 8y800D a4tc0C 7vc00D auqo0C 7idc0D b7pc0C 6sg00D cyo00C",
     "7ayo0D 53c00C 9idxc0D 3i040C 51mw0E 253uk0F 9o2k0E 92040F 8l3s0E jutc0C 4uy840E 3rdzw0C",
     "46xc00D 7x6o0C 2xco40D 8n180E 7x9g0F 9d440E kiqg0C 9d440D 9q2s0C 9cyk0E"],
    "CET-1"⟩,
  ⟨["Africa/Bissau"],
    "-3740/LMT -3600/-01 0/GMT",
    ["-u9rek0B wvoyo0C"],
    "GMT0"⟩,
  ⟨["Africa/Cairo", "Egypt"],
    "7509/LMT 7200/EET 10800/EEST",
    ["-1054wglB krj48lC 40d80B a31g0C 7x3w0B a4w40C aqyk0B 80ys0C b07w0B 7tk40C b07w0B 8jhg0C",
     "a8fw0B 60go40C 7el80B awo40C 7v980B awqw0C 7tk40B b07w0C 7tk40B ayd80C 7tk40B ayd80C",
     "7tk40B ayd80C 7tk40B b07w0C 7tk40B ayd80C 7tk40B ayd80C 7ves0B awik0C 7ves0B ayd80C",
     "7ves0B awik0C 7ves0B awik0C 7ves0B awik0C 7ves0B ayd80C 7ves0B awik0C 7ves0B awik0C",
     "7ves0B awik0C 7ves0B ayd80C 7ves0B awik0C 7ves0B awik0C 7ves0B awik0C 7ves0B ayd80C",
     "7ves0B awik0C 7ves0B f9x80C 3i040B eluk0C 462s0B ayd80C 7ves0B awik0C 7ves0B awik0C",
     "7ves0B awik0C 7ves0B ayd80C 7ves0B b5rw0C 7m5g0B awik0C 7ves0B awik0C 7ves0B ayd80C",
     "7ves0B awik0C 7ves0B awik0C 7ves0B aqvs0C 7x3w0B asys0C 7x3w0B asys0C 7x3w0B asys0C",
     "7x3w0B b5xg0C 7x3w0B asys0C 7x3w0B asys0C 7x3w0B asys0C 7x3w0B asys0C 7x3w0B b5xg0C",
     "7x3w0B asys0C 7x3w0B asys0C 7k580B b5xg0C 6u7w0B bvus0C 6h980B c8tg0C 64ak0B cyqs0C",
     "5anw0B 1jms0C 12t80B 1w22s0C 25p80B 1sw40C 2vmk0B 4hbhg0C"],
    "EET-2EEST,M4.5.5/0,M10.5.4/24"⟩,
  ⟨["Africa/Casablanca"],
    "-1820/LMT 0/+00 3600/+01",
    ["-tblt9gB di7nxgC 3huk0B 51k40C 2znuk0B 2dp9g0C 776k0B 8nt2s0C 657w0B 3ifxg0C 3jp80B",
     "va040C 4qak0B e1ms0C 7pp80B cnms0C 3afw0B 2xi840C xqqk0B bp56s0C 4qak0B e1ms0C 45x80B",
     "d2g40C 51ek0B c8tg0C 64ak0B e1sc0C 47uo0B 1leo0C 23xc0B asw00C 3lmo0B 1qyo0C 40g00B",
     "7x6o0C 4mo00B 1stc0C 4deo0B 7x6o0C 3ylc0B 1stc0C 51hc0B 7x6o0C 3lmo0B 1stc0C 5reo0B",
     "7k800C 2vpc0B 25s00C 64dc0B 7k800C 2iqo0B 1stc0C gkao0B 1stc0C g7c00B 25s00C g7c00B",
     "1stc0C g7c00B 25s00C g7c00B 1stc0C gkao0B 1stc0C g7c00B 25s00C g7c00B 1stc0C gkao0B",
     "1stc0C g7c00B 25s00C g7c00B 1stc0C g7c00B 25s00C g7c00B 1stc0C gkao0B 1stc0C g7c00B",
     "25s00C g7c00B 1stc0C g7c00B 25s00C g7c00B 25s00C g7c00B 1stc0C g7c00B 25s00C g7c00B",
     "1stc0C gkao0B 1stc0C g7c00B 25s00C g7c00B 1stc0C g7c00B 25s00C g7c00B 25s00C g7c00B",
     "1stc0C g7c00B 25s00C g7c00B 1stc0C gkao0B 1stc0C g7c00B 25s00C g7c00B 1stc0C g7c00B",
     "25s00C g7c00B 25s00C g7c00B 1stc0C g7c00B 25s00C g7c00B 1stc0C gkao0B 1stc0C g7c00B",
     "25s00C g7c00B 1stc0C g7c00B 25s00C g7c00B 25s00C g7c00B 1stc0C g7c00B 25s00C g7c00B",
     "1stc0C gkao0B 1stc0C g7c00B 25s00C g7c00B 1stc0C g7c00B 25s00C g7c00B 25s00C g7c00B",
     "1stc0C g7c00B 25s00C g7c00B 1stc0C gkao0B 1stc0C g7c00B 25s00C g7c00B 1stc0C g7c00B",
     "25s00C g7c00B 25s00C g7c00B 1stc0C g7c00B 25s00C g7c00B 1stc0C gkao0B 1stc0C g7c00B",
     "25s00C g7c00B 1stc0C g7c00B 25s00C g7c00B 1stc0C gkao0B 1stc0C g7c00B 25s00C g7c00B",
     "1stc0C gkao0B 1stc0C g7c00B 25s00C"],
    "<+00>0<+01>,0/0,J365/25"⟩,
  ⟨["Africa/Ceuta"],
    "-1276/LMT 0/WET 3600/WEST 3600/CET 7200/CEST",
    ["-100edc0B 91vek0C 7x3w0B 2vt440C 8sqs0B ssyk0C 8n6s0B 9px80C 905g0B a2yo0C 902o0B",
     "k69dc0C 657w0B 3ifxg0C 3jp80B va040C 4qak0B e1ms0C 7pp80B cnms0C 3afw0B 2xi840D 129us0E",
     "9d1c0D 9d1c0E 9d1c0D 9d1c0E 9d1c0D 9d1c0E 9d1c0D 9d1c0E 9q000D 9d1c0E 9d1c0D 9d1c0E",
     "9d1c0D 9d1c0E 9d1c0D 9d1c0E 9d1c0D 9d1c0E 9d1c0D 9q000E"],
    "CET-1CEST,M3.5.0,M10.5.0/3"⟩,
  ⟨["Africa/El_Aaiun"],
    "-3168/LMT -3600/-01 0/+00 3600/+01",
    ["-isdxk0B m2g0c0C vek0D 4qak0C e1ms0D 7pp80C cnms0D 3afw0C fke5g0D 4qak0C e1ms0D 45x80C",
     "d2g40D 51ek0C c8tg0D 64ak0C e1sc0D 47uo0C 1leo0D 23xc0C asw00D 3lmo0C 1qyo0D 40g00C",
     "7x6o0D 4mo00C 1stc0D 4deo0C 7x6o0D 3ylc0C 1stc0D 51hc0C 7x6o0D 3lmo0C 1stc0D 5reo0C",
     "7k800D 2vpc0C 25s00D 64dc0C 7k800D 2iqo0C 1stc0D gkao0C 1stc0D g7c00C 25s00D g7c00C",
     "1stc0D g7c00C 25s00D g7c00C 1stc0D gkao0C 1stc0D g7c00C 25s00D g7c00C 1stc0D gkao0C",
     "1stc0D g7c00C 25s00D g7c00C 1stc0D g7c00C 25s00D g7c00C 1stc0D gkao0C 1stc0D g7c00C",
     "25s00D g7c00C 1stc0D g7c00C 25s00D g7c00C 25s00D g7c00C 1stc0D g7c00C 25s00D g7c00C",
     "1stc0D gkao0C 1stc0D g7c00C 25s00D g7c00C 1stc0D g7c00C 25s00D g7c00C 25s00D g7c00C",
     "1stc0D g7c00C 25s00D g7c00C 1stc0D gkao0C 1stc0D g7c00C 25s00D g7c00C 1stc0D g7c00C",
     "25s00D g7c00C 25s00D g7c00C 1stc0D g7c00C 25s00D g7c00C 1stc0D gkao0C 1stc0D g7c00C",
     "25s00D g7c00C 1stc0D g7c00C 25s00D g7c00C 25s00D g7c00C 1stc0D g7c00C 25s00D g7c00C",
     "1stc0D gkao0C 1stc0D g7c00C 25s00D g7c00C 1stc0D g7c00C 25s00D g7c00C 25s00D g7c00C",
     "1stc0D g7c00C 25s00D g7c00C 1stc0D gkao0C 1stc0D g7c00C 25s00D g7c00C 1stc0D g7c00C",
     "25s00D g7c00C 25s00D g7c00C 1stc0D g7c00C 25s00D g7c00C 1stc0D gkao0C 1stc0D g7c00C",
     "25s00D g7c00C 1stc0D g7c00C 25s00D g7c00C 1stc0D gkao0C 1stc0D g7c00C 25s00D g7c00C",
     "1stc0D gkao0C 1stc0D g7c00C 25s00D"],
    "<+00>0<+01>,0/0,J365/25"⟩,
  ⟨["Africa/Johannesburg", "Africa/Maseru", "Africa/Mbabane"],
    "6720/LMT 5400/SAST 7200/SAST 10800/SAST",
    ["-14nj6ioB 5rpt0oC kn7o60D 9cyk0C 9d440D 9cyk0C"],
    "SAST-2"⟩,
  ⟨["Africa/Juba"],
    "7588/LMT 7200/CAT 10800/CAST 10800/EAT",
    ["-kcrsisB kixuysC 8l6k0B a4w40C 8n180B a6qs0C 8n180B a31g0C 8ovw0B a16s0C 8qqk0B 9zc40C",
     "8sl80B 9xhg0C 8wak0B 9ts40C 8y580B a4w40C 8n180B a31g0C 8ovw0B a16s0C 8sl80B 9xhg0C",
     "8ufw0B 9vms0C 8wak0B 9ts40C 8y580B a4w40C 8ovw0B a16s0C 8qqk0B 7frw40D azg180B"],
    "CAT-2"⟩,
  ⟨["Africa/Khartoum"],
    "7808/LMT 7200/CAT 10800/CAST 10800/EAT",
    ["-kcrsowB kixv4wC 8l6k0B a4w40C 8n180B a6qs0C 8n180B a31g0C 8ovw0B a16s0C 8qqk0B 9zc40C",
     "8sl80B 9xhg0C 8wak0B 9ts40C 8y580B a4w40C 8n180B a31g0C 8ovw0B a16s0C 8sl80B 9xhg0C",
     "8ufw0B 9vms0C 8wak0B 9ts40C 8y580B a4w40C 8ovw0B a16s0C 8qqk0B 7frw40D 9ac180B"],
    "CAT-2"⟩,
  ⟨["Africa/Lagos", "Africa/Bangui", "Africa/Brazzaville", "Africa/Douala", "Africa/Kinshasa",
    "Africa/Libreville", "Africa/Luanda", "Africa/Malabo", "Africa/Niamey", "Africa/Porto-Novo"],
    "815/LMT 0/GMT 1800/+0030 3600/WAT",
    ["-xnxnanB 1kdnanA 2ve7ddC 2yfgknD"],
    "WAT-1"⟩,
  ⟨["Africa/Maputo", "Africa/Blantyre", "Africa/Bujumbura", "Africa/Gaborone", "Africa/Harare",
    "Africa/Kigali", "Africa/Lubumbashi", "Africa/Lusaka"],
    "7818/LMT 7200/CAT",
    ["-vu3fd6B"],
    "CAT-2"⟩,
  ⟨["Africa/Monrovia"],
    "-2588/LMT -2588/MMT -2670/MMT 0/GMT",
    ["-19xcbc4B je5c00C rl202aD"],
    "GMT0"⟩,
  ⟨["Africa/Nairobi", "Africa/Addis_Ababa", "Africa/Asmara", "Africa/Asmera",
    "Africa/Dar_es_Salaam", "Africa/Djibouti", "Africa/Kampala", "Africa/Mogadishu",
    "Indian/Antananarivo", "Indian/Comoro", "Indian/Mayotte"],
    "8836/LMT 9000/+0230 10800/EAT 9900/+0245",
    ["-w6p5hgB aiwqjgC sg1a0B 3nbte0D 2wu1z0C"],
    "EAT-3"⟩,
  ⟨["Africa/Ndjamena"],
    "3612/LMT 3600/WAT 7200/WAST",
    ["-u9rk4cB zdk5ccC 7iak0B"],
    "WAT-1"⟩,
  ⟨["Africa/Sao_Tome"],
    "1616/LMT -2205/LMT 0/GMT 3600/WAT",
    ["-18vsjwwB em12kwC 1jbm840D irxc0C"],
    "GMT0"⟩,
  ⟨["Africa/Tripoli", "Libya"],
    "3164/LMT 3600/CET 7200/CEST 7200/EET",
    ["-q3gfrwB gl6ajwC 422c0B xado0C 4bbo0B wrpg0C 4s580B 1kdpg0D c05bw0B 4mqs0C 9et80B 9d440C",
     "9et80B 9eys0C 9et80B 9mdg0C 95jw0B 9io40C 9cyk0B 99es0C 9et80B 9eys0C 9et80B 9d440C",
     "9et80B b2840D 3cf3w0B 9kis0C 9et80D 7vqyw0B 75eo0C asw00D"],
    "EET-2"⟩,
  ⟨["Africa/Tunis"],
    "2444/LMT 561/PMT 3600/CET 7200/CEST",
    ["-1a9dr7wB fke44bC enxevlD b5uo0C 53c00D u8w00C 7x9g0D c8w80C 7k800D z3w0C ew40D 8bx80C",
     "9d440D 9nx00C 925o0D 8l100C gi3440D 7k800C b9k00D 7vc00C 51mw00D 5ytc0C 9d1c0D 9d1c0C",
     "b9k00D 7thc0C 7m0tc0D 7tk40C 93us0D b5uo0C 7k800D b5uo0C 7x6o0D asw00C"],
    "CET-1"⟩,
  ⟨["Africa/Windhoek"],
    "4104/LMT 5400/+0130 7200/SAST 10800/SAST 7200/CAT 3600/WAT",
    ["-14nj4i0B 5rpr00C kn7o60D 9cyk0C oj2nw0E 235k00F 8lho0E ast80F 7x9g0E b5rw0F 7kas0E",
     "b5rw0F 7x9g0E ast80F 7x9g0E ast80F 7x9g0E ast80F 7x9g0E ast80F 7x9g0E b5rw0F 7kas0E",
     "b5rw0F 7x9g0E ast80F 7x9g0E ast80F 7x9g0E ast80F 7x9g0E ast80F 7x9g0E b5rw0F 7x9g0E",
     "ast80F 7x9g0E ast80F 7x9g0E ast80F 7x9g0E ast80F 7x9g0E b5rw0F 7kas0E b5rw0F 7x9g0E",
     "ast80F 7x9g0E ast80F 7x9g0E ast80F 7x9g0E 2m7o0E"],
    "CAT-2"⟩]

/-- The regions filed under America. -/
def america : List ZoneRecord := [
  ⟨["America/Adak", "America/Atka", "US/Aleutian"],
    "44002/LMT -42398/LMT -39600/NST -36000/NWT -36000/NPT -39600/BST -36000/BDT -36000/AHST -36000/HST -32400/HDT",
    ["-1hc7qjzB h4z1xpC ln70qaD 1tyug0E 2e6s0C b7yik0F 12y080G 9cyk0F 9d440G 9cyk0F 9d440G",
     "9px80F 9d440G 9cyk0F 9d440G 9cyk0F 3lpg0G f4d80F 64g40G clmk0F 9d440G 9px80F 905g0G",
     "9px80F 9d440G 9cyk0F 9d440G 9cyk0F 9d440G 9cyk0F 9d440G 9cyk0F 9d440G 9px80F 905g0G",
     "9px80H 1l940I 7rs80J 9cyk0I 9d440J 9cyk0I 9d440J 9cyk0I 8a840J afuk0I 8a840J ast80I",
     "7x9g0J ast80I 7x9g0J ast80I 8a840J afuk0I 8a840J afuk0I 8a840J ast80I 7x9g0J ast80I",
     "7x9g0J ast80I 8a840J afuk0I 8a840J afuk0I 8a840J afuk0I 8a840J ast80I 7x9g0J ast80I",
     "7x9g0J ast80I 8a840J afuk0I 8a840J afuk0I 8a840J ast80I 7x9g0J ast80I 7x9g0J ast80I",
     "6udg0J"],
    "HST10HDT,M3.2.0,M11.1.0"⟩,
  ⟨["America/Anchorage", "US/Alaska"],
    "50424/LMT -35976/LMT -36000/AST -32400/AWT -32400/APT -36000/AHST -32400/AHDT -32400/YST -32400/AKST -28800/AKDT",
    ["-1hc7qjzB h4ywzbC ln72woD 1tyx80E 2e400C b7yik0F 12y080G 9cyk0F 9d440G 9cyk0F 9d440G",
     "9px80F 9d440G 9cyk0F 9d440G 9cyk0F 3lpg0G f4d80F 64g40G clmk0F 9d440G 9px80F 905g0G",
     "9px80F 9d440G 9cyk0F 9d440G 9cyk0F 9d440G 9cyk0F 9d440G 9cyk0F 9d440G 9px80F 905g0G",
     "9px80H 1l940I 7rs80J 9cyk0I 9d440J 9cyk0I 9d440J 9cyk0I 8a840J afuk0I 8a840J ast80I",
     "7x9g0J ast80I 7x9g0J ast80I 8a840J afuk0I 8a840J afuk0I 8a840J ast80I 7x9g0J ast80I",
     "7x9g0J ast80I 8a840J afuk0I 8a840J afuk0I 8a840J afuk0I 8a840J ast80I 7x9g0J ast80I",
     "7x9g0J ast80I 8a840J afuk0I 8a840J afuk0I 8a840J ast80I 7x9g0J ast80I 7x9g0J ast80I",
     "6udg0J"],
    "AKST9AKDT,M3.2.0,M11.1.0"⟩,
  ⟨["America/Araguaina"],
    "-11568/LMT -10800/-03 -7200/-02",
    ["-t85j2oB 99k8moC 9a9c0B 9io40C 99980B 8p65g0C 6zuo0B bs2o0C 67zw0B cjxg0C 69uk0B cjxg0C",
     "4ml80B 5mf440C 49mk0B haas0C 316k0B cls40C 4ml80B cls40C 66580B cls40C 67zw0B 981s40C",
     "6u7w0B biw40C 5rbw0B d0lg0C 5ed80B cyqs0C 5ed80B dbpg0C 64ak0B 2yl440C 64ak0B c8tg0C",
     "6u7w0B bxpg0C 7iak0B biw40C 6u7w0B biw40C 7k580B biw40C 6u7w0B c8tg0C 6h980B dbpg0C",
     "5ed80B 51udg0C 64ak0B d07nfjB"],
    "<-03>3"⟩,
  ⟨["America/Argentina/Buenos_Aires", "America/Buenos_Aires"],
    "-14028/LMT -15408/CMT -14400/-04 -10800/-03 -7200/-02",
    ["-138aaicB db2bqcC 5iv8k0D 67zw0C a4w40D 73h80C cls40D 66580C cls40D 66580C cls40D 66580C",
     "cls40D 67zw0C cls40D 66580C cls40D 66580C cls40D 66580C cls40D 67zw0C 6a040D hy7w0C",
     "6a040D xovw0C 3uys0D 18nbw0C b0dg0D 8ve2k0C 3uys0D 3yik0C bqas0D 71mk0C bqas0D 71mk0C",
     "bqas0D 8ovw0C 9d440D 9px80C 9d440D 9cyk0C 9d440D 28t6k0E 51ek0D 7m2qs0E 4tzw0D biw40E",
     "776k0D bvus0E 6u7w0D bvus0E 6u7w0D bvus0E 776k0D 3fidg0D 7thc0D 430lc0E 3yik0D b5xg0E",
     "7k580D f2123jD"],
    "<-03>3"⟩,
  ⟨["America/Argentina/Catamarca", "America/Argentina/ComodRivadavia", "America/Catamarca"],
    "-15788/LMT -15408/CMT -14400/-04 -10800/-03 -7200/-02",
    ["-138a95gB db2adgC 5iv8k0D 67zw0C a4w40D 73h80C cls40D 66580C cls40D 66580C cls40D 66580C",
     "cls40D 67zw0C cls40D 66580C cls40D 66580C cls40D 66580C cls40D 67zw0C 6a040D hy7w0C",
     "6a040D xovw0C 3uys0D 18nbw0C b0dg0D 8ve2k0C 3uys0D 3yik0C bqas0D 71mk0C bqas0D 71mk0C",
     "bqas0D 8ovw0C 9d440D 9px80C 9d440D 9cyk0C 9d440D 28t6k0E 51ek0D 7m2qs0E 4tzw0D biw40E",
     "776k0D bvus0E 6u7w0C bvxk0E 6u540D bvus0E 776k0D 3fidg0D 7thc0D 27s800C z9g0D 1u93w0E",
     "3yik0D fkr4rjD"],
    "<-03>3"⟩,
  ⟨["America/Argentina/Cordoba", "America/Cordoba", "America/Rosario"],
    "-15408/LMT -15408/CMT -14400/-04 -10800/-03 -7200/-02",
    ["-138a9g0B db2ao0C 5iv8k0D 67zw0C a4w40D 73h80C cls40D 66580C cls40D 66580C cls40D 66580C",
     "cls40D 67zw0C cls40D 66580C cls40D 66580C cls40D 66580C cls40D 67zw0C 6a040D hy7w0C",
     "6a040D xovw0C 3uys0D 18nbw0C b0dg0D 8ve2k0C 3uys0D 3yik0C bqas0D 71mk0C bqas0D 71mk0C",
     "bqas0D 8ovw0C 9d440D 9px80C 9d440D 9cyk0C 9d440D 28t6k0E 51ek0D 7m2qs0E 4tzw0D biw40E",
     "776k0D bvus0E 6u7w0C bvxk0E 6u540D bvus0E 776k0D 3fidg0D 7thc0D 430lc0E 3yik0D b5xg0E",
     "7k580D f2123jD"],
    "<-03>3"⟩,
  ⟨["America/Argentina/Jujuy", "America/Jujuy"],
    "-15672/LMT -15408/CMT -14400/-04 -10800/-03 -7200/-02",
    ["-138a98oB db2agoC 5iv8k0D 67zw0C a4w40D 73h80C cls40D 66580C cls40D 66580C cls40D 66580C",
     "cls40D 67zw0C cls40D 66580C cls40D 66580C cls40D 66580C cls40D 67zw0C 6a040D hy7w0C",
     "6a040D xovw0C 3uys0D 18nbw0C b0dg0D 8ve2k0C 3uys0D 3yik0C bqas0D 71mk0C bqas0D 71mk0C",
     "bqas0D 8ovw0C 9d440D 9px80C 9d440D 9cyk0C 9d440D 28t6k0E 51ek0D 7m2qs0E 4tzw0D biw40E",
     "776k0C c8w80D 776k0C ag040E 7k2g0D bvus0E 776k0D 3fidg0D 7thc0D 430lc0E 3yik0D fkr4rjD"],
    "<-03>3"⟩,
  ⟨["America/Argentina/La_Rioja"],
    "-16044/LMT -15408/CMT -14400/-04 -10800/-03 -7200/-02",
    ["-138a8ycB db2a6cC 5iv8k0D 67zw0C a4w40D 73h80C cls40D 66580C cls40D 66580C cls40D 66580C",
     "cls40D 67zw0C cls40D 66580C cls40D 66580C cls40D 66580C cls40D 67zw0C 6a040D hy7w0C",
     "6a040D xovw0C 3uys0D 18nbw0C b0dg0D 8ve2k0C 3uys0D 3yik0C bqas0D 71mk0C bqas0D 71mk0C",
     "bqas0D 8ovw0C 9d440D 9px80C 9d440D 9cyk0C 9d440D 28t6k0E 51ek0D 7m2qs0E 4tzw0D biw40E",
     "776k0D bvus0E 6qik0C 3g880D 8jbw0E 6u7w0D bvus0E 776k0D 3fidg0D 7thc0D 27s800C z9g0D",
     "1u93w0E 3yik0D fkr4rjD"],
    "<-03>3"⟩,
  ⟨["America/Argentina/Mendoza", "America/Mendoza"],
    "-16516/LMT -15408/CMT -14400/-04 -10800/-03 -7200/-02",
    ["-138a8l8B db29t8C 5iv8k0D 67zw0C a4w40D 73h80C cls40D 66580C cls40D 66580C cls40D 66580C",
     "cls40D 67zw0C cls40D 66580C cls40D 66580C cls40D 66580C cls40D 67zw0C 6a040D hy7w0C",
     "6a040D xovw0C 3uys0D 18nbw0C b0dg0D 8ve2k0C 3uys0D 3yik0C bqas0D 71mk0C bqas0D 71mk0C",
     "bqas0D 8ovw0C 9d440D 9px80C 9d440D 9cyk0C 9d440D 28t6k0E 51ek0D 7m2qs0E 4tzw0D biw40E",
     "776k0C bktk0D 71mk0C bqas0D 73h80C bvus0E 773s0D 3fidg0D 7thc0D 27bk00C 6hes0D 1p7mk0E",
     "3yik0D fkr4rjD"],
    "<-03>3"⟩,
  ⟨["America/Argentina/Rio_Gallegos"],
    "-16612/LMT -15408/CMT -14400/-04 -10800/-03 -7200/-02",
    ["-138a8ikB db29qkC 5iv8k0D 67zw0C a4w40D 73h80C cls40D 66580C cls40D 66580C cls40D 66580C",
     "cls40D 67zw0C cls40D 66580C cls40D 66580C cls40D 66580C cls40D 67zw0C 6a040D hy7w0C",
     "6a040D xovw0C 3uys0D 18nbw0C b0dg0D 8ve2k0C 3uys0D 3yik0C bqas0D 71mk0C bqas0D 71mk0C",
     "bqas0D 8ovw0C 9d440D 9px80C 9d440D 9cyk0C 9d440D 28t6k0E 51ek0D 7m2qs0E 4tzw0D biw40E",
     "776k0D bvus0E 6u7w0D bvus0E 6u7w0D bvus0E 776k0D 3fidg0D 7thc0D 27s800C z9g0D 1u93w0E",
     "3yik0D fkr4rjD"],
    "<-03>3"⟩,
  ⟨["America/Argentina/Salta"],
    "-15700/LMT -15408/CMT -14400/-04 -10800/-03 -7200/-02",
    ["-138a97wB db2afwC 5iv8k0D 67zw0C a4w40D 73h80C cls40D 66580C cls40D 66580C cls40D 66580C",
     "cls40D 67zw0C cls40D 66580C cls40D 66580C cls40D 66580C cls40D 67zw0C 6a040D hy7w0C",
     "6a040D xovw0C 3uys0D 18nbw0C b0dg0D 8ve2k0C 3uys0D 3yik0C bqas0D 71mk0C bqas0D 71mk0C",
     "bqas0D 8ovw0C 9d440D 9px80C 9d440D 9cyk0C 9d440D 28t6k0E 51ek0D 7m2qs0E 4tzw0D biw40E",
     "776k0D bvus0E 6u7w0C bvxk0E 6u540D bvus0E 776k0D 3fidg0D 7thc0D 430lc0E 3yik0D fkr4rjD"],
    "<-03>3"⟩,
  ⟨["America/Argentina/San_Juan"],
    "-16444/LMT -15408/CMT -14400/-04 -10800/-03 -7200/-02",
    ["-138a8n8B db29v8C 5iv8k0D 67zw0C a4w40D 73h80C cls40D 66580C cls40D 66580C cls40D 66580C",
     "cls40D 67zw0C cls40D 66580C cls40D 66580C cls40D 66580C cls40D 67zw0C 6a040D hy7w0C",
     "6a040D xovw0C 3uys0D 18nbw0C b0dg0D 8ve2k0C 3uys0D 3yik0C bqas0D 71mk0C bqas0D 71mk0C",
     "bqas0D 8ovw0C 9d440D 9px80C 9d440D 9cyk0C 9d440D 28t6k0E 51ek0D 7m2qs0E 4tzw0D biw40E",
     "776k0D bvus0E 6qik0C 3g880D 8jbw0E 6u7w0D bvus0E 776k0D 3fidg0D 7thc0D 27qdc0C 2txg0D",
     "1sgak0E 3yik0D fkr4rjD"],
    "<-03>3"⟩,
  ⟨["America/Argentina/San_Luis"],
    "-15924/LMT -15408/CMT -14400/-04 -10800/-03 -7200/-02",
    ["-138a91oB db2a9oC 5iv8k0D 67zw0C a4w40D 73h80C cls40D 66580C cls40D 66580C cls40D 66580C",
     "cls40D 67zw0C cls40D 66580C cls40D 66580C cls40D 66580C cls40D 67zw0C 6a040D hy7w0C",
     "6a040D xovw0C 3uys0D 18nbw0C b0dg0D 8ve2k0C 3uys0D 3yik0C bqas0D 71mk0C bqas0D 71mk0C",
     "bqas0D 8ovw0C 9d440D 9px80C 9d440D 9cyk0C 9d440D 28t6k0E 51ek0D 7m2qs0E 4tzw0D biw40E",
     "7pp80C b2aw0D 71mk0C 4qg40D 4conw0D 7thc0D 27qdc0C 2txg0D 1sgak0E 14nw0D 2gys0C b5xg0D",
     "7k580C b5xg0D er80jjD"],
    "<-03>3"⟩,
  ⟨["America/Argentina/Tucuman"],
    "-15652/LMT -15408/CMT -14400/-04 -10800/-03 -7200/-02",
    ["-138a998B db2ah8C 5iv8k0D 67zw0C a4w40D 73h80C cls40D 66580C cls40D 66580C cls40D 66580C",
     "cls40D 67zw0C cls40D 66580C cls40D 66580C cls40D 66580C cls40D 67zw0C 6a040D hy7w0C",
     "6a040D xovw0C 3uys0D 18nbw0C b0dg0D 8ve2k0C 3uys0D 3yik0C bqas0D 71mk0C bqas0D 71mk0C",
     "bqas0D 8ovw0C 9d440D 9px80C 9d440D 9cyk0C 9d440D 28t6k0E 51ek0D 7m2qs0E 4tzw0D biw40E",
     "776k0D bvus0E 6u7w0C bvxk0E 6u540D bvus0E 776k0D 3fidg0D 7thc0D 27s800C mas0D 1um2k0E",
     "3yik0D b5xg0E 7k580D f2123jD"],
    "<-03>3"⟩,
  ⟨["America/Argentina/Ushuaia"],
    "-16392/LMT -15408/CMT -14400/-04 -10800/-03 -7200/-02",
    ["-138a8ooB db29woC 5iv8k0D 67zw0C a4w40D 73h80C cls40D 66580C cls40D 66580C cls40D 66580C",
     "cls40D 67zw0C cls40D 66580C cls40D 66580C cls40D 66580C cls40D 67zw0C 6a040D hy7w0C",
     "6a040D xovw0C 3uys0D 18nbw0C b0dg0D 8ve2k0C 3uys0D 3yik0C bqas0D 71mk0C bqas0D 71mk0C",
     "bqas0D 8ovw0C 9d440D 9px80C 9d440D 9cyk0C 9d440D 28t6k0E 51ek0D 7m2qs0E 4tzw0D biw40E",
     "776k0D bvus0E 6u7w0D bvus0E 6u7w0D bvus0E 776k0D 3fidg0D 7thc0D 27oio0C 12ys0D 1u93w0E",
     "3yik0D fkr4rjD"],
    "<-03>3"⟩,
  ⟨["America/Asuncion"],
    "-13840/LMT -13840/AMT -14400/-04 -10800/-03",
    ["-15r0ynkB lsruo0C ldwofkD s4vw0C s6w40D 7tek0C b0dg0D 7rjw0C b0dg0D 7rjw0C b0dg0D 9cyk0C",
     "9eys0D 9et80C 9eys0D 9cyk0C 9eys0D 9cyk0C 9eys0D 9cyk0C 9eys0D 9et80C 9eys0D 9cyk0C",
     "9eys0D 9cyk0C 9eys0D 9cyk0C 9eys0D 9et80C 9eys0D 9cyk0C ahus0D 8a2k0C 9eys0D 9cyk0C",
     "9o840D 7k580C b7s40D 93p80C 9gtg0D 7nuk0C b42s0D 7lzw0C b5xg0D 7tek0C b9ms0D 776k0C",
     "biw40D 7k580C b5xg0D 7x3w0C asys0D 7x3w0C asys0D 7x3w0C b5xg0D 9cyk0C 7kas0D b5rw0C",
     "7x9g0D ast80C a31g0D 7k580C b5xg0D 7k580C b5xg0D 7k580C biw40D 776k0C biw40D 776k0C",
     "biw40D 8zzw0C 905g0D 9px80C 905g0D 9px80C 9d440D 8n180C a31g0D 8n180C a31g0D 8n180C",
     "a31g0D 8zzw0C 9q2s0D 8zzw0C 9q2s0D 8zzw0C a31g0D 8n180C a31g0D 8n180C a31g0D 8zzw0C",
     "9q2s0D 8zzw0C 9q2s0D 8zzw0C 9q2s0D 8zzw0C a31g0D gl80D 6x6dzjD"],
    "<-03>3"⟩,
  ⟨["America/Bahia"],
    "-9244/LMT -10800/-03 -7200/-02",
    ["-t85kv8B 99kaf8C 9a9c0B 9io40C 99980B 8p65g0C 6zuo0B bs2o0C 67zw0B cjxg0C 69uk0B cjxg0C",
     "4ml80B 5mf440C 49mk0B haas0C 316k0B cls40C 4ml80B cls40C 66580B cls40C 67zw0B 981s40C",
     "6u7w0B biw40C 5rbw0B d0lg0C 5ed80B cyqs0C 5ed80B dbpg0C 64ak0B cyqs0C 64ak0B cls40C",
     "5rbw0B dbpg0C 51ek0B dbpg0C 6h980B c8tg0C 6h980B c8tg0C 64ak0B c8tg0C 6u7w0B bxpg0C",
     "7iak0B biw40C 6u7w0B biw40C 7k580B biw40C 6u7w0B c8tg0C 6h980B dbpg0C 5ed80B 4irc40C",
     "6u7w0B dikrfjB"],
    "<-03>3"⟩,
  ⟨["America/Bahia_Banderas"],
    "-25260/LMT -25200/MST -21600/CST -21600/MDT -18000/CDT",
    ["-p1u4k0B 2u5s00C 1si580B 8jhg0D 7x3w0B 9eys0C 591h80B s5qoc0D afuk0B 8a840D afuk0B",
     "8a840D afuk0B 8a840D ast80B 7x9g0D ast80B 9q2s0D 7k580B 9q2s0D afuk0B 8a840D afuk0B",
     "8a840D ast80B 7x9g0D ast80B 7x9g0D ast80B 7x9g0D ast80B 8a840D afuk0B 8a840D afuk0B",
     "8a840E asqg0C 7x9g0E ast80C 7x9g0E ast80C 8a840E afuk0C 8a840E afuk0C 8a840E afuk0C",
     "8a840E ast80C 7x9g0E ast80C 7x9g0E ast80C 8a840E afuk0C 8a840E afuk0C 8a840E ast80C",
     "7x9g0E ast80C"],
    "CST6"⟩,
  ⟨["America/Barbados"],
    "-14309/LMT -14400/AST -10800/ADT -12600/-0330",
    ["-ug8iajB fzq06jC 6w840B cjrw0C 6hes0B b7mk0D 7ves0B h3dpc0C 5rbw0B a31g0C 8n180B a31g0C",
     "8n180B ag040C 84ik0B"],
    "AST4"⟩,
  ⟨["America/Belem"],
    "-11636/LMT -10800/-03 -7200/-02",
    ["-t85j0sB 99k8ksC 9a9c0B 9io40C 99980B 8p65g0C 6zuo0B bs2o0C 67zw0B cjxg0C 69uk0B cjxg0C",
     "4ml80B 5mf440C 49mk0B haas0C 316k0B cls40C 4ml80B cls40C 66580B cls40C 67zw0B 981s40C",
     "6u7w0B biw40C 5rbw0B d0lg0C 5ed80B q2ha3jB"],
    "<-03>3"⟩,
  ⟨["America/Belize"],
    "-21168/LMT -21600/CST -19800/-0530 -18000/CWT -18000/CPT -18000/CDT",
    ["-u52ic0B 3edkc0C 6ham0B c8s20C 6u9a0B bvte0C 6u9a0B bvte0C 6u9a0B c8s20C 6ham0B c8s20C",
     "6ham0B c8s20C 6u9a0B bvte0C 6u9a0B bvte0C 6u9a0B bvte0C 6u9a0B c8s20C 6ham0B c8s20C",
     "6ham0B c8s20C 6u9a0B bvte0C 6u9a0B bvte0C 6u9a0B c8s20C 6ham0B c8s20C 6ham0B c8s20C",
     "6ham0B c8s20C 6u9a0B bvte0C 6u9a0B bvte0C 6u9a0B c8s20C 6ham0B c8s20C 6ham0B c8s20C",
     "6u9a0B 6uc20D 1mtz80E 6c8o0B xulg0C 6u9a0B bvte0C 6u9a0B bvte0C 6u9a0B c8s20C 6ham0B",
     "c8s20C 6ham0B c8s20C 6u9a0B bvte0C 6u9a0B bvte0C 6u9a0B bvte0C 6u9a0B c8s20C 6ham0B",
     "c8s20C 6ham0B c8s20C 6u9a0B bvte0C 6u9a0B bvte0C 6u9a0B c8s20C 6ham0B c8s20C 6ham0B",
     "c8s20C 6ham0B c8s20C 6u9a0B bvte0C 6u9a0B bvte0C 6u9a0B c8s20C 6ham0B 319de0F 3e580B",
     "4mcys0F 2vmk0B"],
    "CST6"⟩,
  ⟨["America/Boa_Vista"],
    "-14560/LMT -14400/-04 -10800/-03",
    ["-t85grkB 99k93kC 9a9c0B 9io40C 99980B 8p65g0C 6zuo0B bs2o0C 67zw0B cjxg0C 69uk0B cjxg0C",
     "4ml80B 5mf440C 49mk0B haas0C 316k0B cls40C 4ml80B cls40C 66580B cls40C 67zw0B 981s40C",
     "6u7w0B biw40C 5rbw0B d0lg0C 5ed80B 62xk40C 7k580B biw40C cvw0B jg3pzjB"],
    "<-04>4"⟩,
  ⟨["America/Bogota"],
    "-17776/LMT -17776/BMT -18000/-05 -14400/-04",
    ["-18s2sy8B g0p400C 14f1hi8D eefw0C nghsjjC"],
    "<-05>5"⟩,
  ⟨["America/Boise"],
    "-27889/LMT -28800/PST -25200/PDT -25200/MST -21600/MWT -21600/MPT -21600/MDT",
    ["-18y0gg0B hxltk0C ast80B 7x9g0C ast80B 1um840D 9s7jw0E 1tz5k0F 2dvo0D b9gdg0G 9cyk0D",
     "9d440G 9cyk0D 9d440G 9cyk0D 9d440G 9cyk0D 9d440G 9px80D 9d440G 9cyk0D 9d440G 9cyk0D",
     "51k40G doik0D 64g40G clmk0D 9d440G 9px80D 905g0G 9px80D 9d440G 9cyk0D 9d440G 9cyk0D",
     "9d440G 9cyk0D 9d440G 9cyk0D 9d440G 9px80D 905g0G 9px80D 9d440G 9cyk0D 9d440G 9cyk0D",
     "9d440G 9cyk0D 8a840G afuk0D 8a840G ast80D 7x9g0G ast80D 7x9g0G ast80D 8a840G afuk0D",
     "8a840G afuk0D 8a840G ast80D 7x9g0G ast80D 7x9g0G ast80D 8a840G afuk0D 8a840G afuk0D",
     "8a840G afuk0D 8a840G ast80D 7x9g0G ast80D 7x9g0G ast80D 8a840G afuk0D 8a840G afuk0D",
     "8a840G ast80D 7x9g0G ast80D 7x9g0G ast80D 6udg0G"],
    "MST7MDT,M3.2.0,M11.1.0"⟩,
  ⟨["America/Cambridge_Bay"],
    "0/-00 -25200/MST -21600/MWT -21600/MPT -21600/MDT -21600/CST -18000/CDT -18000/EST",
    ["-q3gdc0B bjeec0C 1tz5k0D 2dvo0B dvfpg0E 9cyk0B 9d440E 9cyk0B 9d440E 9cyk0B 9d440E 9cyk0B",
     "9d440E 9px80B 905g0E 9px80B 9d440E 9cyk0B 9d440E 9cyk0B 9d440E 9cyk0B 9d440E 9cyk0B",
     "9d440E 9px80B 905g0E 9px80B 9d440E 9cyk0B 9d440E 9cyk0B 9d440E 9cyk0B 8a840E afuk0B",
     "8a840E ast80B 7x9g0E ast80B 7x9g0E ast80B 8a840E afuk0B 8a840E afuk0B 8a840E ast80B",
     "7x9g0E ast80B 7x9g0E ast80B 8a840E afuk0B 8a840E afuk0B 8a840E afuk0B 8a840E ast80F",
     "7x6o0G ast80H ct40F 7kj40E ast80B 8a840E afuk0B 8a840E afuk0B 8a840E ast80B 7x9g0E",
     "ast80B 7x9g0E ast80B 6udg0E"],
    "MST7MDT,M3.2.0,M11.1.0"⟩,
  ⟨["America/Campo_Grande"],
    "-13108/LMT -14400/-04 -10800/-03",
    ["-t85hvwB 99ka7wC 9a9c0B 9io40C 99980B 8p65g0C 6zuo0B bs2o0C 67zw0B cjxg0C 69uk0B cjxg0C",
     "4ml80B 5mf440C 49mk0B haas0C 316k0B cls40C 4ml80B cls40C 66580B cls40C 67zw0B 981s40C",
     "6u7w0B biw40C 5rbw0B d0lg0C 5ed80B cyqs0C 5ed80B dbpg0C 64ak0B cyqs0C 64ak0B cls40C",
     "5rbw0B dbpg0C 51ek0B dbpg0C 6h980B c8tg0C 6h980B c8tg0C 64ak0B c8tg0C 6u7w0B bxpg0C",
     "7iak0B biw40C 6u7w0B biw40C 7k580B biw40C 6u7w0B c8tg0C 6h980B dbpg0C 5ed80B cls40C",
     "64ak0B dfes0C 5nmk0B c8tg0C 6h980B dbpg0C 5rbw0B bvus0C 6h980B cls40C 64ak0B cls40C",
     "6h980B c8tg0C 6h980B c8tg0C 6u7w0B c8tg0C 64ak0B cls40C 64ak0B cls40C 6h980B c8tg0C",
     "6h980B c8tg0C 6h980B c8tg0C 6h980B dbpg0C 5ed80B 9vi5zjB"],
    "<-04>4"⟩,
  ⟨["America/Cancun"],
    "-20824/LMT -21600/CST -18000/EST -18000/CDT -14400/EDT",
    ["-p1u7c0B vb0dk0C j8d00B 6x2wc0D afuk0B 8a840D afuk0C 8a5c0E 64ak0D 4bms0B 8a840D ast80B",
     "7x9g0D ast80B 9q2s0D 7k580B 9q2s0D afuk0B 8a840D afuk0B 8a840D ast80B 7x9g0D ast80B",
     "7x9g0D ast80B 7x9g0D ast80B 8a840D afuk0B 8a840D afuk0B 8a840D ast80B 7x9g0D ast80B",
     "7x9g0D ast80B 8a840D afuk0B 8a840D afuk0B 51k40C"],
    "EST5"⟩,
  ⟨["America/Caracas"],
    "-16064/LMT -16060/CMT -16200/-0430 -14400/-04",
    ["-15r0wxsB bjfjzwC rlo83wD meoxm0C 4dps00D bc2g7jD"],
    "<-04>4"⟩,
  ⟨["America/Cayenne"],
    "-12560/LMT -14400/-04 -10800/-03",
    ["-uj7yb4B tcw6r4C 10ovsjjC"],
    "<-03>3"⟩,
  ⟨["America/Chicago", "CST6CDT", "US/Central"],
    "-21036/LMT -21600/CST -18000/CDT -18000/EST -18000/CWT -18000/CPT",
    ["-18y0m00B hxltk0C ast80B 7x9g0C ast80B bvus0C 776k0B 7kas0C b5rw0B 9d440C 7k580B b5xg0C",
     "7x3w0B asys0C 7x3w0B asys0C 7x3w0B asys0C 7x3w0B asys0C 7x3w0B b5xg0C 7x3w0B asys0C",
     "7x3w0B asys0C 7x3w0B asys0C 7x3w0B asys0C 7x3w0B b5xg0C 7k580B b5xg0C 7x3w0B asys0C",
     "7x3w0B 7x9g0D dbjw0B 8a840C 7x3w0B asys0C 7x3w0B b5xg0C 7k580B b5xg0C 7x3w0B asys0C",
     "7x3w0B 6w840E 1tz8c0F 2dsw0B asys0C 7x3w0B asys0C 7x3w0B asys0C 7x3w0B asys0C 7x3w0B",
     "b5xg0C 7k580B b5xg0C 7x3w0B asys0C 7x3w0B asys0C 7x3w0B asys0C 7x3w0B asys0C 9px80B",
     "9d440C 9cyk0B 9d440C 9cyk0B 9d440C 9cyk0B 9d440C 9cyk0B 9d440C 9px80B 9d440C 9cyk0B",
     "9d440C 9cyk0B 9d440C 9cyk0B 9d440C 9cyk0B 9d440C 9px80B 905g0C 9px80B 9d440C 9cyk0B",
     "9d440C 9cyk0B 9d440C 9cyk0B 9d440C 9cyk0B 9d440C 9px80B 9d440C 9cyk0B 9d440C 9cyk0B",
     "3lpg0C f4d80B 64g40C clmk0B 9d440C 9px80B 905g0C 9px80B 9d440C 9cyk0B 9d440C 9cyk0B",
     "9d440C 9cyk0B 9d440C 9cyk0B 9d440C 9px80B 905g0C 9px80B 9d440C 9cyk0B 9d440C 9cyk0B",
     "9d440C 9cyk0B 8a840C afuk0B 8a840C ast80B 7x9g0C ast80B 7x9g0C ast80B 8a840C afuk0B",
     "8a840C afuk0B 8a840C ast80B 7x9g0C ast80B 7x9g0C ast80B 8a840C afuk0B 8a840C afuk0B",
     "8a840C afuk0B 8a840C ast80B 7x9g0C ast80B 7x9g0C ast80B 8a840C afuk0B 8a840C afuk0B",
     "8a840C ast80B 7x9g0C ast80B 7x9g0C ast80B 6udg0C"],
    "CST6CDT,M3.2.0,M11.1.0"⟩,
  ⟨["America/Chihuahua"],
    "-25460/LMT -25200/MST -21600/CST -21600/MDT -18000/CDT",
    ["-p1u4k0B 2u5s00C 1si580B 8jhg0D 7x3w0B 9eys0C xes2s0E afuk0C 8a840E afuk0C 8aaw0D afuk0B",
     "8a840D ast80B 7x9g0D ast80B 9q2s0D 7k580B 9q2s0D afuk0B 8a840D afuk0B 8a840D ast80B",
     "7x9g0D ast80B 7x9g0D ast80B 7x9g0D ast80B 8a840D afuk0B 8a840D afuk0B 8a840D ast80B",
     "7x9g0D ast80B 7x9g0D ast80B 8a840D afuk0B 8a840D afuk0B 8a840D afuk0B 8a840D ast80B",
     "7x9g0D ast80B 7x9g0D ast80B 8a840D afuk0B 8a840D afuk0B 8a840D ast80B 7x9g0D ast80C"],
    "CST6"⟩,
  ⟨["America/Ciudad_Juarez"],
    "-25556/LMT -25200/MST -21600/CST -21600/MDT -18000/CDT",
    ["-p1u4k0B 2u5s00C 1si580B 8jhg0D 7x3w0B 9eys0C xes2s0E afuk0C 8a840E afuk0C 8aaw0D afuk0B",
     "8a840D ast80B 7x9g0D ast80B 9q2s0D 7k580B 9q2s0D afuk0B 8a840D afuk0B 8a840D ast80B",
     "7x9g0D ast80B 7x9g0D ast80B 7x9g0D ast80B 8a840D afuk0B 8a840D afuk0B 77c40D c8nw0B",
     "6hes0D c8nw0B 6hes0D c8nw0B 6hes0D c8nw0B 6hes0D c8nw0B 6hes0D c8nw0B 6udg0D c8nw0B",
     "6hes0D c8nw0B 6hes0D c8nw0B 6hes0D c8nw0B 6hes0D c8nw0B 6udg0D c8nw0B 6hes0D bvp80C",
     "1l940B"],
    "MST7MDT,M3.2.0,M11.1.0"⟩,
  ⟨["America/Costa_Rica"],
    "-20173/LMT -20173/SJMT -21600/CST -18000/CDT",
    ["-15r0trnB g74lc0C ubtl3nD 51ek0C doo40D 51ek0C 5jso40D 8drw0C acas0D 2xh80C"],
    "CST6"⟩,
  ⟨["America/Coyhaique"],
    "-17296/LMT -16965/SMT -18000/-05 -14400/-04 -10800/-03",
    ["-15r0vzkB ag6l2tC 3dlssrB 157b79D f4e0rB 49hzb9D aye0rC 7ves0D awik0C 7ves0D awik0C",
     "7ves0D awik0C 7ves0D ayd80C 7ves0D 534ik0C 351g0D 24lbw0D b25c0C 2mg00D b73400E 7k580D",
     "c8tg0E 6h980D a31g0E 7x3w0D asys0E 7x3w0D b5xg0E 7k580D ag040E 8a2k0D b5xg0E 7k580D",
     "b5xg0E 7x3w0D asys0E 7x3w0D asys0E 7x3w0D b5xg0E 7k580D b5xg0E 7k580D b5xg0E 7x3w0D",
     "asys0E 7x3w0D asys0E 7x3w0D asys0E 7x3w0D b5xg0E 7k580D b5xg0E 7k580D b5xg0E 9cyk0D",
     "9d440E 7x3w0D asys0E 7x3w0D b5xg0E 7k580D 9q2s0E 8zzw0D b5xg0E 7x3w0D asys0E 7x3w0D",
     "asys0E 7x3w0D asys0E 7x3w0D b5xg0E 7k580D b5xg0E 8n180D a31g0E 7x3w0D a31g0E 9px80D",
     "9q2s0E 7x3w0D b5xg0E 7k580D b5xg0E 7k580D b5xg0E 7k580D b5xg0E 7x3w0D asys0E 7x3w0D",
     "asys0E 7x3w0D b5xg0E 7k580D b5xg0E 8n180D a31g0E 7x3w0D asys0E 8zzw0D 9q2s0E ast80D",
     "5eis0E cyl80D 6hes0E c8nw0D 6udg0E bvp80D 6udg0E vonw0D 4olg0E e1h80D 4olg0E e1h80D",
     "4olg0E c8nw0D 7x9g0E ast80D 7x9g0E ast80D 7x9g0E ast80D 8a840E afuk0D 7x9g0E b5rw0D",
     "7x9g0E 9xbw0E 6p5hzjE"],
    "<-03>3"⟩,
  ⟨["America/Cuiaba"],
    "-13460/LMT -14400/-04 -10800/-03",
    ["-t85hm4B 99k9y4C 9a9c0B 9io40C 99980B 8p65g0C 6zuo0B bs2o0C 67zw0B cjxg0C 69uk0B cjxg0C",
     "4ml80B 5mf440C 49mk0B haas0C 316k0B cls40C 4ml80B cls40C 66580B cls40C 67zw0B 981s40C",
     "6u7w0B biw40C 5rbw0B d0lg0C 5ed80B cyqs0C 5ed80B dbpg0C 64ak0B cyqs0C 64ak0B cls40C",
     "5rbw0B dbpg0C 51ek0B dbpg0C 6h980B c8tg0C 6h980B c8tg0C 64ak0B c8tg0C 6u7w0B bxpg0C",
     "7iak0B biw40C 6u7w0B biw40C 7k580B biw40C 6u7w0B c8tg0C 6h980B dbpg0C 5ed80B w5hg0C",
     "5nmk0B c8tg0C 6h980B dbpg0C 5rbw0B bvus0C 6h980B cls40C 64ak0B cls40C 6h980B c8tg0C",
     "6h980B c8tg0C 6u7w0B c8tg0C 64ak0B cls40C 64ak0B cls40C 6h980B c8tg0C 6h980B c8tg0C",
     "6h980B c8tg0C 6h980B dbpg0C 5ed80B 9vi5zjB"],
    "<-04>4"⟩,
  ⟨["America/Danmarkshavn"],
    "-4480/LMT -10800/-03 -7200/-02 0/GMT",
    ["-rvusjkB x8nx3kC 8zrk0B 9d1c0C 9d1c0B 9d1c0C 9d1c0B 9d1c0C 9d1c0B 9d1c0C 9q000B 9d1c0C",
     "9d1c0B 9d1c0C 9d1c0B 9d1c0C 9d1c0B 9d1c0C 9d1c0B 9d1c0C 9d1c0B 9d1c0C 9q000B 9d1c0C",
     "9d1c0B 9d1c0C 9d1c0B 9d1c0C 9d1c0B 9d1c0C 9d1c0B 9d1c0C 9d1c0B 53hk0D"],
    "GMT0"⟩,
  ⟨["America/Dawson"],
    "-33460/LMT -32400/YST -28800/YDT -28800/YWT -28800/YPT -25200/YDDT -28800/PST -25200/PDT -25200/MST",
    ["-1079sukB 97l62kC a2vw0B asys0C 882c0B bmiwc0D 1tz000E 2e180B a7n3w0F 9q000B 465k00G",
     "3e2is0H 9cyk0G 9d440H 9cyk0G 9d440H 9px80G 905g0H 9px80G 9d440H 9cyk0G 9d440H 9cyk0G",
     "9d440H 9cyk0G 8a840H afuk0G 8a840H ast80G 7x9g0H ast80G 7x9g0H ast80G 8a840H afuk0G",
     "8a840H afuk0G 8a840H ast80G 7x9g0H ast80G 7x9g0H ast80G 8a840H afuk0G 8a840H afuk0G",
     "8a840H afuk0G 8a840H ast80G 7x9g0H ast80G 7x9g0H ast80G 8a840H afuk0G 8a840H afuk0G",
     "8a840H ast80G 7x9g0H ast80G 7x9g0H ast80G 6udg0H c8nw0G 6hes0H c8nw0G 6hes0H c8nw0G",
     "6udg0H c8nw0G 6hes0H c8nw0G 6hes0H c8nw0G 6hes0H c8nw0G 6hes0H c8nw0G 6hes0H c8nw0G",
     "6udg0H c8nw0G 6hes0H c8nw0G 6hes0H c8nw0G 6hes0H c8nw0G 6hes0H c8ic0I"],
    "MST7"⟩,
  ⟨["America/Dawson_Creek"],
    "-28856/LMT -28800/PST -25200/PDT -25200/PWT -25200/PPT -25200/MST",
    ["-18vrwegB hw36ugC a2vw0B c5jxg0D 1tz2s0E 2dyg0B tj1g0C 7x3w0B asys0C 7x3w0B asys0C",
     "7x3w0B b5xg0C 7k580B b5xg0C 7x3w0B asys0C 7x3w0B asys0C 7x3w0B asys0C 7x3w0B asys0C",
     "7x3w0B b5xg0C 7x3w0B asys0C 7x3w0B asys0C 7x3w0B asys0C 7x3w0B asys0C 7x3w0B b5xg0C",
     "7k580B b5xg0C 9cyk0B 9d440C 9cyk0B 9d440C 9cyk0B 9d440C 9px80B 905g0C 9px80B 9d440C",
     "9cyk0B 9d440C 9cyk0B 9d440C 9cyk0B 9d440C 9cyk0B 9d440C 9px80B 9d440C 69uk0F"],
    "MST7"⟩,
  ⟨["America/Denver", "America/Shiprock", "MST7MDT", "Navajo", "US/Mountain"],
    "-25196/LMT -25200/MST -21600/MDT -21600/MWT -21600/MPT",
    ["-18y0j80B hxltk0C ast80B 7x9g0C ast80B 7x9g0C b5rw0B 7kas0C 2vmk0B ataw40D 1tz5k0E",
     "2dvo0B a7n9g0C 9px80B 905g0C 9px80B 9d440C 9cyk0B 9d440C 9cyk0B 9d440C 9cyk0B 9d440C",
     "9cyk0B 9d440C 9px80B 9d440C 9cyk0B 9d440C 9cyk0B 3lpg0C f4d80B 64g40C clmk0B 9d440C",
     "9px80B 905g0C 9px80B 9d440C 9cyk0B 9d440C 9cyk0B 9d440C 9cyk0B 9d440C 9cyk0B 9d440C",
     "9px80B 905g0C 9px80B 9d440C 9cyk0B 9d440C 9cyk0B 9d440C 9cyk0B 8a840C afuk0B 8a840C",
     "ast80B 7x9g0C ast80B 7x9g0C ast80B 8a840C afuk0B 8a840C afuk0B 8a840C ast80B 7x9g0C",
     "ast80B 7x9g0C ast80B 8a840C afuk0B 8a840C afuk0B 8a840C afuk0B 8a840C ast80B 7x9g0C",
     "ast80B 7x9g0C ast80B 8a840C afuk0B 8a840C afuk0B 8a840C ast80B 7x9g0C ast80B 7x9g0C",
     "ast80B 6udg0C"],
    "MST7MDT,M3.2.0,M11.1.0"⟩,
  ⟨["America/Detroit", "US/Michigan"],
    "-19931/LMT -21600/CST -18000/EST -14400/EWT -14400/EPT -14400/EDT",
    ["-xx8dydB 5eraudC dyeyk0D 1tzb40E 2dq40C 1c9440F 7x3w0C 9rlbxoF 71s2cC 9d440F 9cyk0C",
     "2cmdg0F 9cyk0C 3lpg0F f4d80C 9d440F 9cyk0C 9d440F 9px80C 905g0F 9px80C 9d440F 9cyk0C",
     "9d440F 9cyk0C 9d440F 9cyk0C 9d440F 9cyk0C 9d440F 9px80C 905g0F 9px80C 9d440F 9cyk0C",
     "9d440F 9cyk0C 9d440F 9cyk0C 8a840F afuk0C 8a840F ast80C 7x9g0F ast80C 7x9g0F ast80C",
     "8a840F afuk0C 8a840F afuk0C 8a840F ast80C 7x9g0F ast80C 7x9g0F ast80C 8a840F afuk0C",
     "8a840F afuk0C 8a840F afuk0C 8a840F ast80C 7x9g0F ast80C 7x9g0F ast80C 8a840F afuk0C",
     "8a840F afuk0C 8a840F ast80C 7x9g0F ast80C 7x9g0F ast80C 6udg0F"],
    "EST5EDT,M3.2.0,M11.1.0"⟩,
  ⟨["America/Edmonton", "America/Yellowknife", "Canada/Mountain"],
    "-27232/LMT -25200/MST -21600/MDT -21600/MWT -21600/MPT",
    ["-x1yazkB 629inkC a2vw0B 8n6s0C 29ek0B h6lg0C 9px80B 905g0C 7x3w0B b5xg0C 7k580B b5xg0C",
     "7x3w0B 9l0g40D 1tz5k0E 2dvo0B tj1g0C 7x3w0B ctzk40C 9cyk0B 9d440C 9cyk0B 9d440C 9cyk0B",
     "9d440C 9cyk0B 9d440C 9px80B 905g0C 9px80B 9d440C 9cyk0B 9d440C 9cyk0B 9d440C 9cyk0B",
     "9d440C 9cyk0B 9d440C 9px80B 905g0C 9px80B 9d440C 9cyk0B 9d440C 9cyk0B 9d440C 9cyk0B",
     "8a840C afuk0B 8a840C ast80B 7x9g0C ast80B 7x9g0C ast80B 8a840C afuk0B 8a840C afuk0B",
     "8a840C ast80B 7x9g0C ast80B 7x9g0C ast80B 8a840C afuk0B 8a840C afuk0B 8a840C afuk0B",
     "8a840C ast80B 7x9g0C ast80B 7x9g0C ast80B 8a840C afuk0B 8a840C afuk0B 8a840C ast80B",
     "7x9g0C ast80B 7x9g0C ast80B 6udg0C"],
    "MST7MDT,M3.2.0,M11.1.0"⟩,
  ⟨["America/Eirunepe"],
    "-16768/LMT -18000/-05 -14400/-04",
    ["-t85f28B 99ka68C 9a9c0B 9io40C 99980B 8p65g0C 6zuo0B bs2o0C 67zw0B cjxg0C 69uk0B cjxg0C",
     "4ml80B 5mf440C 49mk0B haas0C 316k0B cls40C 4ml80B cls40C 66580B cls40C 67zw0B 981s40C",
     "6u7w0B biw40C 5rbw0B d0lg0C 5ed80B 2yy2s0C 6h980B 7hg2s0C 2t2t80B cmiwjjB"],
    "<-05>5"⟩,
  ⟨["America/El_Salvador"],
    "-21408/LMT -21600/CST -18000/CDT",
    ["-pkm4tcB ymao5cC 7k580B b5xg0C 7k580B"],
    "CST6"⟩,
  ⟨["America/Fort_Nelson"],
    "-29447/LMT -28800/PST -25200/PDT -25200/PWT -25200/PPT -25200/MST",
    ["-18vrvy1B hw36e1C a2vw0B c5jxg0D 1tz2s0E 2dyg0B tj1g0C 7x3w0B asys0C 7x3w0B asys0C",
     "7x3w0B b5xg0C 7k580B b5xg0C 7x3w0B asys0C 7x3w0B asys0C 7x3w0B asys0C 7x3w0B asys0C",
     "7x3w0B b5xg0C 7x3w0B asys0C 7x3w0B asys0C 7x3w0B asys0C 7x3w0B asys0C 7x3w0B b5xg0C",
     "7k580B b5xg0C 9cyk0B 9d440C 9cyk0B 9d440C 9cyk0B 9d440C 9px80B 905g0C 9px80B 9d440C",
     "9cyk0B 9d440C 9cyk0B 9d440C 9cyk0B 9d440C 9cyk0B 9d440C 9px80B 9d440C 9cyk0B 9d440C",
     "9cyk0B 9d440C 9cyk0B 9d440C 9cyk0B 9d440C 9px80B 905g0C 9px80B 9d440C 9cyk0B 9d440C",
     "9cyk0B 9d440C 9cyk0B 9d440C 9cyk0B 9d440C 9px80B 905g0C 9px80B 9d440C 9cyk0B 9d440C",
     "9cyk0B 9d440C 9cyk0B 8a840C afuk0B 8a840C ast80B 7x9g0C ast80B 7x9g0C ast80B 8a840C",
     "afuk0B 8a840C afuk0B 8a840C ast80B 7x9g0C ast80B 7x9g0C ast80B 8a840C afuk0B 8a840C",
     "afuk0B 8a840C afuk0B 8a840C ast80B 7x9g0C ast80B 7x9g0C ast80B 8a840C afuk0B 8a840C",
     "afuk0B 8a840C ast80B 7x9g0C ast80B 7x9g0C ast80B 6udg0C c8nw0B 6hes0C c8nw0B 6hes0C",
     "c8nw0B 6udg0C c8nw0B 6hes0C c8nw0B 6hes0C c8nw0B 6hes0C c8nw0B 6hes0C c8nw0B 6hes0F"],
    "MST7"⟩,
  ⟨["America/Fortaleza"],
    "-9240/LMT -10800/-03 -7200/-02",
    ["-t85kvcB 99kafcC 9a9c0B 9io40C 99980B 8p65g0C 6zuo0B bs2o0C 67zw0B cjxg0C 69uk0B cjxg0C",
     "4ml80B 5mf440C 49mk0B haas0C 316k0B cls40C 4ml80B cls40C 66580B cls40C 67zw0B 981s40C",
     "6u7w0B biw40C 5rbw0B d0lg0C 5ed80B cyqs0C 5ed80B dbpg0C 64ak0B 514g40C 7k580B biw40C",
     "puk0B id6s0C 6h980B iqwe3jB"],
    "<-03>3"⟩,
  ⟨["America/Glace_Bay"],
    "-14388/LMT -14400/AST -10800/ADT -10800/AWT -10800/APT",
    ["-z94kwcB 89fk8cC a2vw0B c5jxg0D 1tzdw0E 2dnc0B 3y8g40C 7x3w0B 9pa5g0C 9cyk0B 9d440C",
     "9cyk0B 9d440C 9cyk0B 9d440C 9cyk0B 9d440C 9px80B 905g0C 9px80B 9d440C 9cyk0B 9d440C",
     "9cyk0B 9d440C 9cyk0B 9d440C 9cyk0B 9d440C 9px80B 905g0C 9px80B 9d440C 9cyk0B 9d440C",
     "9cyk0B 9d440C 9cyk0B 8a840C afuk0B 8a840C ast80B 7x9g0C ast80B 7x9g0C ast80B 8a840C",
     "afuk0B 8a840C afuk0B 8a840C ast80B 7x9g0C ast80B 7x9g0C ast80B 8a840C afuk0B 8a840C",
     "afuk0B 8a840C afuk0B 8a840C ast80B 7x9g0C ast80B 7x9g0C ast80B 8a840C afuk0B 8a840C",
     "afuk0B 8a840C ast80B 7x9g0C ast80B 7x9g0C ast80B 6udg0C"],
    "AST4ADT,M3.2.0,M11.1.0"⟩,
  ⟨["America/Goose_Bay"],
    "-14500/LMT -12652/NST -9052/NDT -12600/NST -9000/NDT -9000/NWT -9000/NPT -14400/AST -10800/ADT -7200/ADDT",
    ["-18vs7h8B hw35goC a2vw0B 8kjbw0D kzjykE 7k580D b5xg0E 7k580D b5xg0E 7k580D biw40E 776k0D",
     "biw40E 7k580D b5xg0E 7k580D b5xg0F 1pb260G 2dly0D biw40E 7k580D b5xg0E 7k580D b5xg0E",
     "7k580D b5xg0E 7k580D biw40E 7k580D ag040E 7x3w0D asys0E 7x3w0D asys0E 7x3w0D asys0E",
     "7x3w0D asys0E 7x3w0D b5xg0E 7x3w0D asys0E 7x3w0D asys0E 7x3w0D asys0E 7x3w0D asys0E",
     "9px80D 9d440E 9cyk0D 9d440E 9cyk0D 9d440E 9cyk0D 9d440E 9cyk0D 9d440E 9px80D 6y2s0H",
     "22420I 9px80H 9d440I 9cyk0H 9d440I 9cyk0H 9d440I 9cyk0H 9d440I 9cyk0H 9d440I 9px80H",
     "9d440I 9cyk0H 9d440I 9cyk0H 9d440I 9cyk0H 9d440I 9cyk0H 9d440I 9px80H 905g0I 9px80H",
     "9d440I 9cyk0H 9d440I 9cyk0H 9d440I 9cyk0H 9d440I 9cyk0H 9d440I 9px80H 905g0I 9px80H",
     "9d440I 9cyk0H 9d440I 9cyk0H 9d440I 9cyk0H 8a2loI afuk0H 8a840J asqg0H 7xc80I ast80H",
     "7x9g0I ast80H 8a840I afuk0H 8a840I afuk0H 8a840I ast80H 7x9g0I ast80H 7x9g0I ast80H",
     "8a840I afuk0H 8a840I afuk0H 8a840I afuk0H 8a840I ast80H 7x9g0I ast80H 7x9g0I ast80H",
     "8a840I afuk0H 8a840I afuk0H 8a840I ast80H 7x9g0I ast80H 7x9g0I ast80H 6udg0I c8nw0H",
     "6hes0I c8nw0H 6hes0I c8nw0H 6udg0I c8nw0H 6hes0I c8tecH"],
    "AST4ADT,M3.2.0,M11.1.0"⟩,
  ⟨["America/Grand_Turk"],
    "-17072/LMT -18430/KMT -18000/EST -14400/EDT -14400/AST",
    ["-15r0w5sB biv7pqC z3brw2D 9cyk0C 9d440D 9cyk0C 9d440D 9cyk0C 9d440D 9px80C 905g0D 9px80C",
     "9d440D 9cyk0C 9d440D 9cyk0C 9d440D 9cyk0C 8a840D afuk0C 8a840D ast80C 7x9g0D ast80C",
     "7x9g0D ast80C 8a840D afuk0C 8a840D afuk0C 8a840D ast80C 7x9g0D ast80C 7x9g0D ast80C",
     "8a840D afuk0C 8a840D afuk0C 8a840D afuk0C 8a840D ast80C 7x9g0D ast80C 7x9g0D ast80C",
     "8a840D afuk0C 8a840D afuk0C 8a840D ast80C 7x9g0D ast80C 7x9g0D ast80C 6udg0D c8nw0C",
     "6hes0D c8nw0C 6hes0D c8nw0C 6udg0D c8nw0C 6hes0D c8nw0C 6hes0D c8nw0C 6hes0D c8nw0C",
     "6hes0D c8nw0C 6hes0E 1kj6o0D"],
    "EST5EDT,M3.2.0,M11.1.0"⟩,
  ⟨["America/Guatemala"],
    "-21724/LMT -21600/CST -18000/CDT",
    ["-qqqskkB ss0akkC 4ofw0B 4tidg0C 6djw0B 3wwas0C 8n180B 7n5ms0C 7x3w0B"],
    "CST6"⟩,
  ⟨["America/Guayaquil"],
    "-19160/LMT -18840/QMT -18000/-05 -14400/-04",
    ["-15r0ujsB le9mf4C wb620oD 3jp80C nglhvjC"],
    "<-05>5"⟩,
  ⟨["America/Guyana"],
    "-13959/LMT -14400/-04 -13500/-0345 -10800/-03",
    ["-uhmik9B 1va8c9C vj6nb0D 8p0jd0B nwp4jjB"],
    "<-04>4"⟩,
  ⟨["America/Halifax", "Canada/Atlantic"],
    "-15264/LMT -14400/AST -10800/ADT -10800/AWT -10800/APT",
    ["-z94k80B 777go0C 9et80B st9o0C a2vw0B ssyk0C 5rbw0B cv1g0C 69uk0B c6ys0C 6kyk0B ci2s0C",
     "67zw0B ci2s0C 6w2k0B bu040C 7lzw0B bu040C 66580B bu040C 7lzw0B bu040C 64ak0B cls40C",
     "5v180B cv1g0C 6j3w0B c6ys0C 79180B b42s0C 7lzw0B b42s0C 7yyk0B bu040C 64ak0B dbpg0C",
     "66580B cls40C 5ed80B bu040C 7lzw0B b42s0C 7lzw0B cjxg0C 66580B bh1g0C 7lzw0B b42s0C",
     "7lzw0B 6uj00D 1tzdw0E 2dnc0B asys0C 7x3w0B asys0C 7x3w0B asys0C 7x3w0B asys0C 7x3w0B",
     "tw040C 7x3w0B asys0C 7x3w0B asys0C 7x3w0B asys0C 7x3w0B tw040C 7x3w0B asys0C 7x3w0B",
     "asys0C 7x3w0B asys0C 7x3w0B 1cm2s0C 9cyk0B 9d440C 9cyk0B 9d440C 9cyk0B 9d440C 9px80B",
     "905g0C 9px80B 9d440C 9cyk0B 9d440C 9cyk0B 9d440C 9cyk0B 9d440C 9cyk0B 9d440C 9px80B",
     "9d440C 9cyk0B 9d440C 9cyk0B 9d440C 9cyk0B 9d440C 9cyk0B 9d440C 9px80B 905g0C 9px80B",
     "9d440C 9cyk0B 9d440C 9cyk0B 9d440C 9cyk0B 9d440C 9cyk0B 9d440C 9px80B 905g0C 9px80B",
     "9d440C 9cyk0B 9d440C 9cyk0B 9d440C 9cyk0B 8a840C afuk0B 8a840C ast80B 7x9g0C ast80B",
     "7x9g0C ast80B 8a840C afuk0B 8a840C afuk0B 8a840C ast80B 7x9g0C ast80B 7x9g0C ast80B",
     "8a840C afuk0B 8a840C afuk0B 8a840C afuk0B 8a840C ast80B 7x9g0C ast80B 7x9g0C ast80B",
     "8a840C afuk0B 8a840C afuk0B 8a840C ast80B 7x9g0C ast80B 7x9g0C ast80B 6udg0C"],
    "AST4ADT,M3.2.0,M11.1.0"⟩,
  ⟨["America/Havana", "Cuba"],
    "-19768/LMT -19776/HMT -18000/CST -14400/CDT",
    ["-15r0u2wB ijto08C 1icfyoD 69uk0C 62s040D 4ofw0C e1ms0D 51ek0C e1ms0D 4ofw0C 1fhs40D",
     "4ofw0C e1ms0D 4ofw0C 9s9k40D 67zw0C cedg0D 6h980C 9o840D 7yyk0C b5xg0D 7k580C bvus0D",
     "9cyk0C 9d440D 9cyk0C 9d440D 9px80C 9d440D 8a2k0C ag040D 8bx80C ae5g0D 8drw0C acas0D",
     "9cyk0C 9d440D 9px80C 905g0D 9px80C 9q2s0D 7x3w0C 8a840D ast80C 7x9g0D ast80C asys0D",
     "7x3w0C asys0D 7x3w0C asys0D 7x3w0C asys0D 8a2k0C ag040D 8a2k0C 7x9g0D ast80C 7x9g0D",
     "ast80C 8a840D afuk0C 8a840D afuk0C 905g0D a2vw0C 905g0D 9q000C 902o0D 9q000C 902o0D",
     "9q000C 902o0D 9q000C 902o0D 9q000C 9d1c0D 9d1c0C 9d1c0D 9q000C 8n400D asw00C 7x6o0D",
     "b5uo0C 7x6o0D asw00C 7x6o0D asw00C 8a5c0D afxc0C 8a5c0D afxc0C 7x6o0D 1cm000C 6uao0D",
     "bvs00C 779c0D bitc0C 6uao0D bvs00C 779c0D bvs00C 779c0D c8qo0C 779c0D"],
    "CST5CDT,M3.2.0/0,M11.1.0/1"⟩,
  ⟨["America/Hermosillo"],
    "-26632/LMT -25200/MST -21600/CST -21600/MDT",
    ["-p1u4k0B 2u5s00C 1si580B 8jhg0D 7x3w0B 9eys0C 591h80B s5qoc0D afuk0B 8a840D afuk0B",
     "8a840D afuk0B"],
    "MST7"⟩,
  ⟨["America/Indiana/Indianapolis", "America/Fort_Wayne", "America/Indianapolis",
    "US/East-Indiana"],
    "-20678/LMT -21600/CST -18000/CDT -18000/CWT -18000/CPT -18000/EST -14400/EDT",
    ["-18y0m00B hxltk0C ast80B 7x9g0C ast80B baw840C 51ek0B 6w840D 1tz8c0E 2dsw0B asys0C",
     "7x3w0B asys0C 7x3w0B asys0C 7x3w0B asys0C 7x3w0B b5xg0C 7k580B b5xg0C 7x3w0B asys0C",
     "7x3w0B asys0C 7x3w0B asys0C 7x3w0B asys0F 19q7w0B asys0F 5qonw0G 9cyk0F 9d440G 9cyk0F",
     "ihslg0G ast80F 6udg0G"],
    "EST5EDT,M3.2.0,M11.1.0"⟩,
  ⟨["America/Indiana/Knox", "America/Knox_IN", "US/Indiana-Starke"],
    "-20790/LMT -21600/CST -18000/CDT -18000/CWT -18000/CPT -18000/EST",
    ["-18y0m00B hxltk0C ast80B 7x9g0C ast80B bmtus0D 1tz8c0E 2dsw0B tj1g0C 7x3w0B asys0C",
     "7x3w0B asys0C 7x3w0B b5xg0C 7k580B b5xg0C 7x3w0B asys0C 7x3w0B asys0C 7x3w0B asys0C",
     "7x3w0B asys0C 9px80B 9d440C 9cyk0B 9d440C 7x3w0B asys0C 7x3w0B asys0C 9cyk0B 9d440C",
     "9px80B 9d440C 9cyk0B 9d440F s3180B 1twas0C 9cyk0B 9d440C 9cyk0B 9d440C 9cyk0B 9d440C",
     "9cyk0B 9d440C 9px80B 9d440C 9cyk0B 9d440C 9cyk0B 3lpg0C f4d80B 64g40C clmk0B 9d440C",
     "9px80B 905g0C 9px80B 9d440C 9cyk0B 9d440C 9cyk0B 9d440C 9cyk0B 9d440C 9cyk0B 9d440C",
     "9px80B 905g0C 9px80B 9d440C 9cyk0B 9d440C 9cyk0B 9d440C 9cyk0B 8a840C afuk0B 8a840C",
     "ast80B 7x9g0C ast80B 7x9g0C ast80B 8a840C afuk0F 7j5400C asw00B 6udg0C"],
    "CST6CDT,M3.2.0,M11.1.0"⟩,
  ⟨["America/Indiana/Marengo"],
    "-20723/LMT -21600/CST -18000/CDT -18000/CWT -18000/CPT -18000/EST -14400/EDT",
    ["-18y0m00B hxltk0C ast80B 7x9g0C ast80B bmtus0D 1tz8c0E 2dsw0B 2wsas0C 7x3w0B 1c9440C",
     "7x3w0B asys0C 7x3w0B b5xg0C 7x3w0B asys0C 7x3w0B asys0C 7x3w0B asys0C 7x3w0B asys0C",
     "7x3w0B b5xg0F 465h80G 9cyk0F 9d440G 9cyk0F 9d440G 9px80F 9d440G 9cyk0F 9d440G 9cyk0F",
     "3lpg0C f4g00F 64dc0G clmk0F fvt9g0G ast80F 6udg0G"],
    "EST5EDT,M3.2.0,M11.1.0"⟩,
  ⟨["America/Indiana/Petersburg"],
    "-20947/LMT -21600/CST -18000/CDT -18000/CWT -18000/CPT -18000/EST",
    ["-18y0m00B hxltk0C ast80B 7x9g0C ast80B bmtus0D 1tz8c0E 2dsw0B 501ek0C 7kas0B b5xg0C",
     "7x3w0B asys0C 7x3w0B asys0C 7x3w0B asys0C 7x3w0B asys0C 7x3w0B b5xg0C 9cyk0B 9d440C",
     "9cyk0B 9d440C 9cyk0B 9d440C 9cyk0B 9d440F sfzw0B 9d440C 9cyk0B 9d440C 9cyk0B 9d440C",
     "9cyk0B 9d440C 9cyk0B 9d440C 9px80B 9d440C 9cyk0B 9d440C 9cyk0B 3lpg0C f4d80B 64g40C",
     "clmk0B 9d440C 9px80B 905g0C 9px80F eu02o0C asw00B 6udg0C c8nw0F"],
    "EST5EDT,M3.2.0,M11.1.0"⟩,
  ⟨["America/Indiana/Tell_City"],
    "-20823/LMT -21600/CST -18000/CDT -18000/CWT -18000/CPT -18000/EST -14400/EDT",
    ["-18y0m00B hxltk0C ast80B 7x9g0C ast80B bmtus0D 1tz8c0E 2dsw0B 501ek0C 7kas0B b5xg0C",
     "7x3w0B asys0C 7x3w0B asys0C 7x3w0B asys0C 7x3w0B asys0C 7x3w0B b5xg0C 9cyk0B 9d440C",
     "9cyk0B 9d440C 9cyk0B 9d440F 1tw580B 9d440C 9cyk0B 9d440G 9cvs0F 9d440G 9cyk0F ihslg0C",
     "asw00B 6udg0C"],
    "CST6CDT,M3.2.0,M11.1.0"⟩,
  ⟨["America/Indiana/Vevay"],
    "-20416/LMT -21600/CST -18000/CDT -18000/CWT -18000/CPT -18000/EST -14400/EDT",
    ["-18y0m00B hxltk0C ast80B 7x9g0C ast80B bmtus0D 1tz8c0E 2dsw0B 4gyis0F 7txx80G 9cyk0F",
     "9d440G 9cyk0F 9d440G 9px80F 9d440G 9cyk0F hfzhg0G ast80F 6udg0G"],
    "EST5EDT,M3.2.0,M11.1.0"⟩,
  ⟨["America/Indiana/Vincennes"],
    "-21007/LMT -21600/CST -18000/CDT -18000/CWT -18000/CPT -18000/EST -14400/EDT",
    ["-18y0m00B hxltk0C ast80B 7x9g0C ast80B bmtus0D 1tz8c0E 2dsw0B asys0C 7x3w0B 3fidg0C",
     "7x3w0B asys0C 7x3w0B b5rw0C 7kas0B b5xg0C 7x3w0B asys0C 7x3w0B asys0C 7x3w0B asys0C",
     "7x3w0B asys0C 9px80B 9d440C 7k580B b5xg0C 9cyk0B 9d440C 9cyk0B 9d440F 2lz980G 9cyk0F",
     "9d440G 9cyk0F ihslg0C asw00B 6udg0C c8nw0F"],
    "EST5EDT,M3.2.0,M11.1.0"⟩,
  ⟨["America/Indiana/Winamac"],
    "-20785/LMT -21600/CST -18000/CDT -18000/CWT -18000/CPT -18000/EST -14400/EDT",
    ["-18y0m00B hxltk0C ast80B 7x9g0C ast80B bmtus0D 1tz8c0E 2dsw0B asys0C 7x3w0B asys0C",
     "7x3w0B asys0C 7x3w0B asys0C 7x3w0B b5xg0C 7k580B b5xg0C 7x3w0B asys0C 7x3w0B asys0C",
     "7x3w0B asys0C 7x3w0B asys0C 9px80B 9d440C 9cyk0B 9d440C 7x3w0B asys0C 7x3w0B asys0C",
     "7x3w0B asys0C 7x3w0B b5xg0F 465h80G 9cyk0F 9d440G 9cyk0F ihslg0C asw00B 6udg0G"],
    "EST5EDT,M3.2.0,M11.1.0"⟩,
  ⟨["America/Inuvik"],
    "0/-00 -28800/PST -25200/PDT -21600/MDT -25200/MST",
    ["-8ve5c0B a34zs0C 9cyk0B 9d440C 9cyk0B 9d440C 9cyk0B 9d440C 9cyk0B 9d440C 9px80B 905g0C",
     "9px80B 9d440C 9cyk0B 9d440D 9cvs0E 9d440D 9cyk0E 9d440D 9cyk0E 9d440D 9px80E 905g0D",
     "9px80E 9d440D 9cyk0E 9d440D 9cyk0E 9d440D 9cyk0E 8a840D afuk0E 8a840D ast80E 7x9g0D",
     "ast80E 7x9g0D ast80E 8a840D afuk0E 8a840D afuk0E 8a840D ast80E 7x9g0D ast80E 7x9g0D",
     "ast80E 8a840D afuk0E 8a840D afuk0E 8a840D afuk0E 8a840D ast80E 7x9g0D ast80E 7x9g0D",
     "ast80E 8a840D afuk0E 8a840D afuk0E 8a840D ast80E 7x9g0D ast80E 7x9g0D ast80E 6udg0D"],
    "MST7MDT,M3.2.0,M11.1.0"⟩,
  ⟨["America/Iqaluit", "America/Pangnirtung"],
    "0/-00 -14400/EWT -14400/EPT -18000/EST -14400/EDT -21600/CST -18000/CDT",
    ["-eb6ao0B 1l3h80C 2dq40D dvfpg0E 9cyk0D 9d440E 9cyk0D 9d440E 9cyk0D 9d440E 9cyk0D 9d440E",
     "9px80D 905g0E 9px80D 9d440E 9cyk0D 9d440E 9cyk0D 9d440E 9cyk0D 9d440E 9cyk0D 9d440E",
     "9px80D 905g0E 9px80D 9d440E 9cyk0D 9d440E 9cyk0D 9d440E 9cyk0D 8a840E afuk0D 8a840E",
     "ast80D 7x9g0E ast80D 7x9g0E ast80D 8a840E afuk0D 8a840E afuk0D 8a840E ast80D 7x9g0E",
     "ast80D 7x9g0E ast80D 8a840E afuk0D 8a840E afuk0D 8a840E afuk0D 8a840E ast80F 7xc80G",
     "ast80D 7x6o0E ast80D 8a840E afuk0D 8a840E afuk0D 8a840E ast80D 7x9g0E ast80D 7x9g0E",
     "ast80D 6udg0E"],
    "EST5EDT,M3.2.0,M11.1.0"⟩,
  ⟨["America/Jamaica", "Jamaica"],
    "-18430/LMT -18430/KMT -18000/EST -14400/EDT",
    ["-15r0v42B biv6o0C wbl182D f4d80C 64g40D clmk0C 9d440D 9px80C 905g0D 9px80C 9d440D 9cyk0C",
     "9d440D 9cyk0C 9d440D 9cyk0C 9d440D 9cyk0C 9d440D 9px80C 905g0D 9px80C"],
    "EST5"⟩,
  ⟨["America/Juneau"],
    "54139/LMT -32261/LMT -28800/PST -25200/PWT -25200/PPT -25200/PDT -28800/YDT -32400/YST -32400/AKST -28800/AKDT",
    ["-1hc7qjzB h4yu44C ln707vD 1tz2s0E 2dyg0C cawis0F 9cyk0C 9d440F 9cyk0C 9d440F 9px80C",
     "9d440F 9cyk0C 9d440F 9cyk0C 3lpg0F f4d80C 64g40F clmk0C 9d440F 9px80C 905g0F 9px80C",
     "9d440F 9cyk0C 9d440F 9cyk0C 9d440G 9d1c0C 9d1c0F 9cyk0C 9d440F 9px80C 905g0F 9px80H",
     "1leo0I 7rs80J 9cyk0I 9d440J 9cyk0I 9d440J 9cyk0I 8a840J afuk0I 8a840J ast80I 7x9g0J",
     "ast80I 7x9g0J ast80I 8a840J afuk0I 8a840J afuk0I 8a840J ast80I 7x9g0J ast80I 7x9g0J",
     "ast80I 8a840J afuk0I 8a840J afuk0I 8a840J afuk0I 8a840J ast80I 7x9g0J ast80I 7x9g0J",
     "ast80I 8a840J afuk0I 8a840J afuk0I 8a840J ast80I 7x9g0J ast80I 7x9g0J ast80I 6udg0J"],
    "AKST9AKDT,M3.2.0,M11.1.0"⟩,
  ⟨["America/Kentucky/Louisville", "America/Louisville"],
    "-20582/LMT -21600/CST -18000/CDT -18000/CWT -18000/CPT -18000/EST -14400/EDT",
    ["-18y0m00B hxltk0C ast80B 7x9g0C ast80B sg5g0C 6bp80B a98o40C 7x3w0B 6w840D 1tz8c0E",
     "2dsw0B ast9oC 1sw2cB 21gis0C 7k580B b5xg0C 7x3w0B asys0C 7x3w0B asys0C 7x3w0B asys0C",
     "7x3w0B asys0C 7x3w0B b5xg0C 9cyk0B 9d440C 9cyk0B 9d440C 9cyk0B 9d440C 9cyk0B 9d440C",
     "9px80B 9d440C 4bh80F 3j3xc0G 9cyk0F 9d440G 9cyk0F 9d440G 9cyk0F 9d440G 9px80F 9d440G",
     "9cyk0F 9d440G 9cyk0F 3lpg0C f4g00F 64dc0G clmk0F 9d440G 9px80F 905g0G 9px80F 9d440G",
     "9cyk0F 9d440G 9cyk0F 9d440G 9cyk0F 9d440G 9cyk0F 9d440G 9px80F 905g0G 9px80F 9d440G",
     "9cyk0F 9d440G 9cyk0F 9d440G 9cyk0F 8a840G afuk0F 8a840G ast80F 7x9g0G ast80F 7x9g0G",
     "ast80F 8a840G afuk0F 8a840G afuk0F 8a840G ast80F 7x9g0G ast80F 7x9g0G ast80F 8a840G",
     "afuk0F 8a840G afuk0F 8a840G afuk0F 8a840G ast80F 7x9g0G ast80F 7x9g0G ast80F 8a840G",
     "afuk0F 8a840G afuk0F 8a840G ast80F 7x9g0G ast80F 7x9g0G ast80F 6udg0G"],
    "EST5EDT,M3.2.0,M11.1.0"⟩,
  ⟨["America/Kentucky/Monticello"],
    "-20364/LMT -21600/CST -18000/CDT -18000/CWT -18000/CPT -18000/EST -14400/EDT",
    ["-18y0m00B hxltk0C ast80B 7x9g0C ast80B bmtus0D 1tz8c0E 2dsw0B bs6g40C 9cyk0B 9d440C",
     "9cyk0B 9d440C 9cyk0B 9d440C 9px80B 9d440C 9cyk0B 9d440C 9cyk0B 3lpg0C f4d80B 64g40C",
     "clmk0B 9d440C 9px80B 905g0C 9px80B 9d440C 9cyk0B 9d440C 9cyk0B 9d440C 9cyk0B 9d440C",
     "9cyk0B 9d440C 9px80B 905g0C 9px80B 9d440C 9cyk0B 9d440C 9cyk0B 9d440C 9cyk0B 8a840C",
     "afuk0B 8a840C ast80B 7x9g0C ast80B 7x9g0C ast80B 8a840C afuk0B 8a840C afuk0B 8a840C",
     "ast80B 7x9g0C ast80B 7x9g0C ast80B 8a840C afuk0B 8a840C afuk0B 8a840C afuk0B 8a840C",
     "ast80B 7x9g0C ast80F 7x6o0G ast80F 8a840G afuk0F 8a840G afuk0F 8a840G ast80F 7x9g0G",
     "ast80F 7x9g0G ast80F 6udg0G"],
    "EST5EDT,M3.2.0,M11.1.0"⟩,
  ⟨["America/La_Paz"],
    "-16356/LMT -16356/CMT -12756/BST -14400/-04",
    ["-15r0wpoB lt1400C 84ik0D 1j8fb57D"],
    "<-04>4"⟩,
  ⟨["America/Lima"],
    "-18492/LMT -18516/LMT -18000/-05 -14400/-04",
    ["-15r0v2cB 9ov9coC fcxjloD 4ml80C 93us0D 9cyk0C 9d440D 9cyk0C nw16s0D 4ml80C e5c40D",
     "4ml80C 1fr1g0D 4ml80C 1yiys0D 4ml80C muzpvjC"],
    "<-05>5"⟩,
  ⟨["America/Los_Angeles", "PST8PDT", "US/Pacific"],
    "-28378/LMT -28800/PST -25200/PDT -25200/PWT -25200/PPT",
    ["-18y0gg0B hxltk0C ast80B 7x9g0C ast80B bmtus0D 1tz2s0E 2dyg0B 1a3c5oC f2iicB owao0C",
     "7k800B b5uo0C 7x6o0B asw00C 7x6o0B asw00C 7x6o0B asw00C 7x6o0B asw00C 7x6o0B b5uo0C",
     "7x6o0B asw00C 7x6o0B asw00C 7x6o0B asw00C 7x6o0B asw00C 7x6o0B b5uo0C 7k800B b5uo0C",
     "9d1c0B 9d1c0C 9d1c0B 9d1c0C 9d1c0B 9d1c0C 9q000B 902o0C 9q000B 9d440C 9cyk0B 9d440C",
     "9cyk0B 9d440C 9cyk0B 9d440C 9cyk0B 9d440C 9px80B 9d440C 9cyk0B 9d440C 9cyk0B 3lpg0C",
     "f4d80B 64g40C clmk0B 9d440C 9px80B 905g0C 9px80B 9d440C 9cyk0B 9d440C 9cyk0B 9d440C",
     "9cyk0B 9d440C 9cyk0B 9d440C 9px80B 905g0C 9px80B 9d440C 9cyk0B 9d440C 9cyk0B 9d440C",
     "9cyk0B 8a840C afuk0B 8a840C ast80B 7x9g0C ast80B 7x9g0C ast80B 8a840C afuk0B 8a840C",
     "afuk0B 8a840C ast80B 7x9g0C ast80B 7x9g0C ast80B 8a840C afuk0B 8a840C afuk0B 8a840C",
     "afuk0B 8a840C ast80B 7x9g0C ast80B 7x9g0C ast80B 8a840C afuk0B 8a840C afuk0B 8a840C",
     "ast80B 7x9g0C ast80B 7x9g0C ast80B 6udg0C"],
    "PST8PDT,M3.2.0,M11.1.0"⟩,
  ⟨["America/Maceio"],
    "-8572/LMT -10800/-03 -7200/-02",
    ["-t85ldwB 99kaxwC 9a9c0B 9io40C 99980B 8p65g0C 6zuo0B bs2o0C 67zw0B cjxg0C 69uk0B cjxg0C",
     "4ml80B 5mf440C 49mk0B haas0C 316k0B cls40C 4ml80B cls40C 66580B cls40C 67zw0B 981s40C",
     "6u7w0B biw40C 5rbw0B d0lg0C 5ed80B cyqs0C 5ed80B dbpg0C 64ak0B 2yl440C 64ak0B 1wf1g0C",
     "7k580B biw40C puk0B id6s0C 6h980B iqwe3jB"],
    "<-03>3"⟩,
  ⟨["America/Managua"],
    "-20708/LMT -20712/MMT -21600/CST -18000/EST -18000/CDT",
    ["-15r0tcsB n7jmo4C ka1i0oD xqqk0C 24p6s0E 53980C dmtg0E 53980C 60itw0D dq240C 53es0D",
     "235h80C 4beis0E 8zzw0C at4c0E 7x140C"],
    "CST6"⟩,
  ⟨["America/Manaus", "Brazil/West"],
    "-14404/LMT -14400/-04 -10800/-03",
    ["-t85gvwB 99k97wC 9a9c0B 9io40C 99980B 8p65g0C 6zuo0B bs2o0C 67zw0B cjxg0C 69uk0B cjxg0C",
     "4ml80B 5mf440C 49mk0B haas0C 316k0B cls40C 4ml80B cls40C 66580B cls40C 67zw0B 981s40C",
     "6u7w0B biw40C 5rbw0B d0lg0C 5ed80B 2yy2s0C 6h980B mx1vbjB"],
    "<-04>4"⟩,
  ⟨["America/Martinique"],
    "-14660/LMT -14660/FFMT -14400/AST -10800/ADT",
    ["-15r0y0sB b4o2o0C zz5x4sD 8zzw0C"],
    "AST4"⟩,
  ⟨["America/Matamoros"],
    "-23400/LMT -21600/CST -18000/CDT",
    ["-p1u7c0B ykt480C ast80B 3vppg0C afuk0B 8a840C afuk0B 8a840C afuk0B 8a840C ast80B 7x9g0C",
     "ast80B 9q2s0C 7k580B 9q2s0C afuk0B 8a840C afuk0B 8a840C ast80B 7x9g0C ast80B 7x9g0C",
     "ast80B 7x9g0C ast80B 8a840C afuk0B 8a840C afuk0B 77c40C"],
    "CST6CDT,M3.2.0,M11.1.0"⟩,
  ⟨["America/Mazatlan", "Mexico/BajaSur"],
    "-25540/LMT -25200/MST -21600/CST -21600/MDT",
    ["-p1u4k0B 2u5s00C 1si580B 8jhg0D 7x3w0B 9eys0C 591h80B s5qoc0D afuk0B 8a840D afuk0B",
     "8a840D afuk0B 8a840D ast80B 7x9g0D ast80B 9q2s0D 7k580B 9q2s0D afuk0B 8a840D afuk0B",
     "8a840D ast80B 7x9g0D ast80B 7x9g0D ast80B 7x9g0D ast80B 8a840D afuk0B 8a840D afuk0B",
     "8a840D ast80B 7x9g0D ast80B 7x9g0D ast80B 8a840D afuk0B 8a840D afuk0B 8a840D afuk0B",
     "8a840D ast80B 7x9g0D ast80B 7x9g0D ast80B 8a840D afuk0B 8a840D afuk0B 8a840D ast80B",
     "7x9g0D ast80B"],
    "MST7"⟩,
  ⟨["America/Menominee"],
    "-21027/LMT -21600/CST -18000/CDT -18000/CWT -18000/CPT -18000/EST",
    ["-17zjvrxB gz53bxC ast80B 7x9g0C ast80B bmtus0D 1tz8c0E 2dsw0B asys0C 7x3w0B a7n9g0C",
     "9px80B 1at9g0F 2396k0C 9d1c0B 3lpg0C f4d80B 64g40C clmk0B 9d440C 9px80B 905g0C 9px80B",
     "9d440C 9cyk0B 9d440C 9cyk0B 9d440C 9cyk0B 9d440C 9cyk0B 9d440C 9px80B 905g0C 9px80B",
     "9d440C 9cyk0B 9d440C 9cyk0B 9d440C 9cyk0B 8a840C afuk0B 8a840C ast80B 7x9g0C ast80B",
     "7x9g0C ast80B 8a840C afuk0B 8a840C afuk0B 8a840C ast80B 7x9g0C ast80B 7x9g0C ast80B",
     "8a840C afuk0B 8a840C afuk0B 8a840C afuk0B 8a840C ast80B 7x9g0C ast80B 7x9g0C ast80B",
     "8a840C afuk0B 8a840C afuk0B 8a840C ast80B 7x9g0C ast80B 7x9g0C ast80B 6udg0C"],
    "CST6CDT,M3.2.0,M11.1.0"⟩,
  ⟨["America/Merida"],
    "-21508/LMT -21600/CST -18000/EST -18000/CDT",
    ["-p1u7c0B vb0dk0C fzuk0B 70bes0D afuk0B 8a840D afuk0B 8a840D afuk0B 8a840D ast80B 7x9g0D",
     "ast80B 9q2s0D 7k580B 9q2s0D afuk0B 8a840D afuk0B 8a840D ast80B 7x9g0D ast80B 7x9g0D",
     "ast80B 7x9g0D ast80B 8a840D afuk0B 8a840D afuk0B 8a840D ast80B 7x9g0D ast80B 7x9g0D",
     "ast80B 8a840D afuk0B 8a840D afuk0B 8a840D afuk0B 8a840D ast80B 7x9g0D ast80B 7x9g0D",
     "ast80B 8a840D afuk0B 8a840D afuk0B 8a840D ast80B 7x9g0D ast80B"],
    "CST6"⟩,
  ⟨["America/Metlakatla"],
    "54822/LMT -31578/LMT -28800/PST -25200/PWT -25200/PPT -25200/PDT -32400/AKST -28800/AKDT",
    ["-1hc7qjzB h4ytl5C ln70quD 1tz2s0E 2dyg0C cawis0F 9cyk0C 9d440F 9cyk0C 9d440F 9px80C",
     "9d440F 9cyk0C 9d440F 9cyk0C 3lpg0F f4d80C 64g40F clmk0C 9d440F 9px80C 905g0F 9px80C",
     "9d440F 9cyk0C 9d440F 9cyk0C 9d440F 9cyk0C 9d440F 9cyk0C 9d440F 9px80C 905g0F 9px80C",
     "gpc840G 6udg0H c8nw0G 6hes0H c8nw0G 6hes0H c8nw0C 3ylc0G"],
    "AKST9AKDT,M3.2.0,M11.1.0"⟩,
  ⟨["America/Mexico_City", "Mexico/General"],
    "-23796/LMT -25200/MST -21600/CST -21600/MDT -18000/CDT -18000/CWT",
    ["-p1u4k0B 2u5s00C 1si580B 8jhg0D 7x3w0B 9eys0C 3knek0E 776k0C rf440E 5t6k0C 1evk40F",
     "71mk0C 30p1g0E 8n180C nufxo0E afuk0C 8a840E afuk0C 8a840E afuk0C 8a840E ast80C 7x9g0E",
     "ast80C 9q2s0E 7k580C 9q2s0E afuk0C 8a840E afuk0C 8a840E ast80C 7x9g0E ast80C 7x9g0E",
     "ast80C 7x9g0E ast80C 8a840E afuk0C 8a840E afuk0C 8a840E ast80C 7x9g0E ast80C 7x9g0E",
     "ast80C 8a840E afuk0C 8a840E afuk0C 8a840E afuk0C 8a840E ast80C 7x9g0E ast80C 7x9g0E",
     "ast80C 8a840E afuk0C 8a840E afuk0C 8a840E ast80C 7x9g0E ast80C"],
    "CST6"⟩,
  ⟨["America/Miquelon"],
    "-13480/LMT -14400/AST -10800/-03 -7200/-02",
    ["-uk1k9kB zy4wpkC 3m59g0D afuk0C 8a840D ast80C 7x9g0D ast80C 7x9g0D ast80C 8a840D afuk0C",
     "8a840D afuk0C 8a840D ast80C 7x9g0D ast80C 7x9g0D ast80C 8a840D afuk0C 8a840D afuk0C",
     "8a840D afuk0C 8a840D ast80C 7x9g0D ast80C 7x9g0D ast80C 8a840D afuk0C 8a840D afuk0C",
     "8a840D ast80C 7x9g0D ast80C 7x9g0D ast80C 6udg0D c8nw0C 6hes0D c8nw0C 6hes0D c8nw0C",
     "6udg0D c8nw0C 6hes0D c8nw0C 6hes0D c8nw0C 6hes0D c8nw0C 6hes0D c8nw0C 6hes0D c8nw0C",
     "6udg0D c8nw0C 6hes0D c8nw0C 6hes0D c8nw0C 6hes0D c8nw0C 6hes0D c8nw0C 6udg0D c8nw0C",
     "6hes0D c8nw0C 6hes0D c8nw0C 6hes0D c8nw0C 6hes0D c8nw0C 6hes0D c8nw0C 6udg0D c8nw0C",
     "6hes0D c8nw0C 6hes0D c8nw0C 6hes0D c8nw0C 6hes0D c8nw0C 6udg0D c8nw0C 6hes0D c8nw0C",
     "6hes0D c8nw0C 6hes0D c8nw0C 6hes0D c8nw0C 6hes0D c8nw0C 428jjC"],
    "<-03>3<-02>,M3.2.0,M11.1.0"⟩,
  ⟨["America/Moncton"],
    "-15548/LMT -18000/EST -14400/AST -10800/ADT -10800/AWT -10800/APT",
    ["-18wys04B 9nu9w4C 89fhg0D a2vw0C 7mqqo0D 4ofw0C e1ms0D 4ofw0C e1ms0D 4ofw0C e1ms0D",
     "4ofw0C e1ms0D 4ofw0C e1ms0D 4ofw0C dmtg0D 64ak0C cao40D 6fek0C bkqs0D 7iak0C 6y5k0E",
     "1tzdw0F 2dnc0C asys0D 7x3w0C asys0D 7x3w0C asys0D 7x3w0C asys0D 7x3w0C b5xg0D 7k580C",
     "b5xg0D 7x3w0C asys0D 7x3w0C asys0D 7x3w0C asys0D 7x3w0C asys0D 7x3w0C b5xg0D 7x3w0C",
     "asys0D 9cyk0C 9d440D 9cyk0C 9d440D 9cyk0C 9d440D 9px80C 9d440D 9cyk0C 9d440D 9cyk0C",
     "9d440D 9cyk0C 9d440D 9cyk0C 9d440D 9px80C 905g0D 9px80C 9d440D 9cyk0C 9d440D 9cyk0C",
     "9d440D 9cyk0C 9d440D 9cyk0C 9d440D 9px80C 9d440D 9cyk0C s36s0D 9cyk0C 9d440D 9cyk0C",
     "9d440D 9px80C 905g0D 9px80C 9d440D 9cyk0C 9d440D 9cyk0C 9d440D 9cyk0C 9d440D 9cyk0C",
     "9d440D 9px80C 905g0D 9px80C 9d440D 9cyk0C 9d440D 9cyk0C 9d440D 9cyk0C 8a840D afuk0C",
     "8a840D ast80C 7x9g0D ast80C 7x9g0D ast80C 8a840D afuk0C 8a840D afuk0C 8a2loD ast80C",
     "7x9g0D ast80C 7x9g0D ast80C 8a840D afuk0C 8a840D afuk0C 8a840D afuk0C 8a840D ast80C",
     "7x9g0D ast80C 7x9g0D ast80C 8a840D afuk0C 8a840D afuk0C 8a840D ast80C 7x9g0D ast80C",
     "7x9g0D ast80C 6uiycD"],
    "AST4ADT,M3.2.0,M11.1.0"⟩,
  ⟨["America/Monterrey"],
    "-24076/LMT -25200/MST -21600/CST -21600/MDT -18000/CDT",
    ["-p1u7c0B 2u5us0C 1si580B 8jhg0D 7x3w0B 9eys0C t89k40E ast80C 3vppg0E afuk0C 8a840E",
     "afuk0C 8a840E afuk0C 8a840E ast80C 7x9g0E ast80C 9q2s0E 7k580C 9q2s0E afuk0C 8a840E",
     "afuk0C 8a840E ast80C 7x9g0E ast80C 7x9g0E ast80C 7x9g0E ast80C 8a840E afuk0C 8a840E",
     "afuk0C 8a840E ast80C 7x9g0E ast80C 7x9g0E ast80C 8a840E afuk0C 8a840E afuk0C 8a840E",
     "afuk0C 8a840E ast80C 7x9g0E ast80C 7x9g0E ast80C 8a840E afuk0C 8a840E afuk0C 8a840E",
     "ast80C 7x9g0E ast80C"],
    "CST6"⟩,
  ⟨["America/Montevideo"],
    "-13491/LMT -13491/MMT -14400/-04 -10800/-03 -12600/-0330 -9000/-0230 -7200/-02 -5400/-0130",
    ["-w4mll9B 67elc0C 1s74p9D 9et80E 9exe0D 9czy0E 9exe0D 9czy0E 3ydyq0D 7x5a0E asxe0D 7x5a0E",
     "asxe0D 7x5a0E asxe0D 7x5a0E b5w20D 7k6m0E b5w20D 7k6m0E 9q1e0D 9czy0E asxe0D 7x5a0E",
     "6do20D ppvy0F 4mmm0D 8g9qq0F 901a0D 38pe0G 2inw0D 2nf9g0G 8zzw0D 1e3s40F 9o3y0D q8he0G",
     "2kik0D yxhg0G 4bh80D s36s0H 2vl60F 905g0D 5rg20G 51ek0D weqs0G 3yik0D e1ms0G 4ofw0D",
     "erk40G 3yik0D 2vs40G gk7w0D 41iys0G 3wnw0D erk40G 4bh80D c8tg0G 64ak0D c8tg0G 6u7w0D",
     "c8tg0G 6h980D bvus0G 6u7w0D 614qs0G 9q2s0D a31g0G 7x3w0D ag040G 8a2k0D asys0G 7x3w0D",
     "asys0G 7x3w0D asys0G 8a2k0D ag040G 8a2k0D ag040G 8a2k0D asys0G 7x3w0D asys0G 7x3w0D",
     "asys0G 7x3w0D bxogjjD"],
    "<-03>3"⟩,
  ⟨["America/New_York", "EST5EDT", "US/Eastern"],
    "-17762/LMT -18000/EST -14400/EDT -14400/EWT -14400/EPT",
    ["-18y0os0B hxltk0C ast80B 7x9g0C ast80B 7x9g0C b5rw0B 905g0C 7x3w0B b5xg0C 7k580B b5xg0C",
     "7x3w0B asys0C 7x3w0B asys0C 7x3w0B asys0C 7x3w0B asys0C 7x3w0B b5xg0C 7x3w0B asys0C",
     "7x3w0B asys0C 7x3w0B asys0C 7x3w0B asys0C 7x3w0B b5xg0C 7k580B b5xg0C 7x3w0B asys0C",
     "7x3w0B asys0C 7x3w0B asys0C 7x3w0B asys0C 7x3w0B b5xg0C 7k580B b5xg0C 7x3w0B asys0C",
     "7x3w0B 6w840D 1tzb40E 2dq40B asys0C 7x3w0B asys0C 7x3w0B asys0C 7x3w0B asys0C 7x3w0B",
     "b5xg0C 7k580B b5xg0C 7x3w0B asys0C 7x3w0B asys0C 7x3w0B asys0C 7x3w0B asys0C 9px80B",
     "9d440C 9cyk0B 9d440C 9cyk0B 9d440C 9cyk0B 9d440C 9cyk0B 9d440C 9px80B 9d440C 9cyk0B",
     "9d440C 9cyk0B 9d440C 9cyk0B 9d440C 9cyk0B 9d440C 9px80B 905g0C 9px80B 9d440C 9cyk0B",
     "9d440C 9cyk0B 9d440C 9cyk0B 9d440C 9cyk0B 9d440C 9px80B 9d440C 9cyk0B 9d440C 9cyk0B",
     "3lpg0C f4d80B 64g40C clmk0B 9d440C 9px80B 905g0C 9px80B 9d440C 9cyk0B 9d440C 9cyk0B",
     "9d440C 9cyk0B 9d440C 9cyk0B 9d440C 9px80B 905g0C 9px80B 9d440C 9cyk0B 9d440C 9cyk0B",
     "9d440C 9cyk0B 8a840C afuk0B 8a840C ast80B 7x9g0C ast80B 7x9g0C ast80B 8a840C afuk0B",
     "8a840C afuk0B 8a840C ast80B 7x9g0C ast80B 7x9g0C ast80B 8a840C afuk0B 8a840C afuk0B",
     "8a840C afuk0B 8a840C ast80B 7x9g0C ast80B 7x9g0C ast80B 8a840C afuk0B 8a840C afuk0B",
     "8a840C ast80B 7x9g0C ast80B 7x9g0C ast80B 6udg0C"],
    "EST5EDT,M3.2.0,M11.1.0"⟩,
  ⟨["America/Nome"],
    "46702/LMT -39698/LMT -39600/NST -36000/NWT -36000/NPT -39600/BST -36000/BDT -32400/YST -32400/AKST -28800/AKDT",
    ["-1hc7qjzB h4yzupC ln72taD 1tyug0E 2e6s0C b7yik0F 12y080G 9cyk0F 9d440G 9cyk0F 9d440G",
     "9px80F 9d440G 9cyk0F 9d440G 9cyk0F 3lpg0G f4d80F 64g40G clmk0F 9d440G 9px80F 905g0G",
     "9px80F 9d440G 9cyk0F 9d440G 9cyk0F 9d440G 9cyk0F 9d440G 9cyk0F 9d440G 9px80F 905g0G",
     "9px80H 1l6c0I 7rs80J 9cyk0I 9d440J 9cyk0I 9d440J 9cyk0I 8a840J afuk0I 8a840J ast80I",
     "7x9g0J ast80I 7x9g0J ast80I 8a840J afuk0I 8a840J afuk0I 8a840J ast80I 7x9g0J ast80I",
     "7x9g0J ast80I 8a840J afuk0I 8a840J afuk0I 8a840J afuk0I 8a840J ast80I 7x9g0J ast80I",
     "7x9g0J ast80I 8a840J afuk0I 8a840J afuk0I 8a840J ast80I 7x9g0J ast80I 7x9g0J ast80I",
     "6udg0J"],
    "AKST9AKDT,M3.2.0,M11.1.0"⟩,
  ⟨["America/Noronha", "Brazil/DeNoronha"],
    "-7780/LMT -7200/-02 -3600/-01",
    ["-t85lzwB 99k8rwC 9a9c0B 9io40C 99980B 8p65g0C 6zuo0B bs2o0C 67zw0B cjxg0C 69uk0B cjxg0C",
     "4ml80B 5mf440C 49mk0B haas0C 316k0B cls40C 4ml80B cls40C 66580B cls40C 67zw0B 981s40C",
     "6u7w0B biw40C 5rbw0B d0lg0C 5ed80B cyqs0C 5ed80B dbpg0C 64ak0B 514g40C 7k580B biw40C",
     "cvw0B iq5g0C 6h980B iqwgvjB"],
    "<-02>2"⟩,
  ⟨["America/North_Dakota/Beulah"],
    "-24427/LMT -25200/MST -21600/MDT -21600/MWT -21600/MPT -21600/CST",
    ["-18y0j80B hxltk0C ast80B 7x9g0C ast80B bmtus0D 1tz5k0E 2dvo0B b9gdg0C 9cyk0B 9d440C",
     "9cyk0B 9d440C 9cyk0B 9d440C 9cyk0B 9d440C 9px80B 9d440C 9cyk0B 9d440C 9cyk0B 3lpg0C",
     "f4d80B 64g40C clmk0B 9d440C 9px80B 905g0C 9px80B 9d440C 9cyk0B 9d440C 9cyk0B 9d440C",
     "9cyk0B 9d440C 9cyk0B 9d440C 9px80B 905g0C 9px80B 9d440C 9cyk0B 9d440C 9cyk0B 9d440C",
     "9cyk0B 8a840C afuk0B 8a840C ast80B 7x9g0C ast80B 7x9g0C ast80B 8a840C afuk0B 8a840C",
     "afuk0B 8a840C ast80B 7x9g0C ast80B 7x9g0C ast80B 8a840C afuk0B 8a840C afuk0B 8a840C",
     "afuk0B 8a840C ast80B 7x9g0C ast80B 7x9g0C ast80B 8a840C afuk0B 8a840C afuk0B 8a840C",
     "ast80B 7x9g0C ast80B 7x9g0C ast80B 6udg0C c8nw0B 6hes0C c8nw0B 6hes0C c8nw0B 6udg0C",
     "c8nw0F"],
    "CST6CDT,M3.2.0,M11.1.0"⟩,
  ⟨["America/North_Dakota/Center"],
    "-24312/LMT -25200/MST -21600/MDT -21600/MWT -21600/MPT -21600/CST -18000/CDT",
    ["-18y0j80B hxltk0C ast80B 7x9g0C ast80B bmtus0D 1tz5k0E 2dvo0B b9gdg0C 9cyk0B 9d440C",
     "9cyk0B 9d440C 9cyk0B 9d440C 9cyk0B 9d440C 9px80B 9d440C 9cyk0B 9d440C 9cyk0B 3lpg0C",
     "f4d80B 64g40C clmk0B 9d440C 9px80B 905g0C 9px80B 9d440C 9cyk0B 9d440C 9cyk0B 9d440C",
     "9cyk0B 9d440C 9cyk0B 9d440C 9px80B 905g0C 9px80B 9d440C 9cyk0B 9d440C 9cyk0B 9d440C",
     "9cyk0B 8a840C afuk0B 8a840C ast80B 7x9g0C ast80B 7x9g0C ast80B 8a840C afuk0B 8a840C",
     "afuk0F 8a5c0G ast80F 7x9g0G ast80F 7x9g0G ast80F 8a840G afuk0F 8a840G afuk0F 8a840G",
     "afuk0F 8a840G ast80F 7x9g0G ast80F 7x9g0G ast80F 8a840G afuk0F 8a840G afuk0F 8a840G",
     "ast80F 7x9g0G ast80F 7x9g0G ast80F 6udg0G"],
    "CST6CDT,M3.2.0,M11.1.0"⟩,
  ⟨["America/North_Dakota/New_Salem"],
    "-24339/LMT -25200/MST -21600/MDT -21600/MWT -21600/MPT -21600/CST -18000/CDT",
    ["-18y0j80B hxltk0C ast80B 7x9g0C ast80B bmtus0D 1tz5k0E 2dvo0B b9gdg0C 9cyk0B 9d440C",
     "9cyk0B 9d440C 9cyk0B 9d440C 9cyk0B 9d440C 9px80B 9d440C 9cyk0B 9d440C 9cyk0B 3lpg0C",
     "f4d80B 64g40C clmk0B 9d440C 9px80B 905g0C 9px80B 9d440C 9cyk0B 9d440C 9cyk0B 9d440C",
     "9cyk0B 9d440C 9cyk0B 9d440C 9px80B 905g0C 9px80B 9d440C 9cyk0B 9d440C 9cyk0B 9d440C",
     "9cyk0B 8a840C afuk0B 8a840C ast80B 7x9g0C ast80B 7x9g0C ast80B 8a840C afuk0B 8a840C",
     "afuk0B 8a840C ast80B 7x9g0C ast80B 7x9g0C ast80B 8a840C afuk0B 8a840C afuk0B 8a840C",
     "afuk0B 8a840C ast80B 7x9g0C ast80B 7x9g0C ast80B 8a840C afuk0B 8a840C afuk0F 8a5c0G",
     "ast80F 7x9g0G ast80F 7x9g0G ast80F 6udg0G"],
    "CST6CDT,M3.2.0,M11.1.0"⟩,
  ⟨["America/Nuuk", "America/Godthab"],
    "-12416/LMT -10800/-03 -7200/-02 -3600/-01",
    ["-rvumf4B x8nqz4C 8zrk0B 9d1c0C 9d1c0B 9d1c0C 9d1c0B 9d1c0C 9d1c0B 9d1c0C 9q000B 9d1c0C",
     "9d1c0B 9d1c0C 9d1c0B 9d1c0C 9d1c0B 9d1c0C 9d1c0B 9d1c0C 9d1c0B 9d1c0C 9q000B 9d1c0C",
     "9d1c0B 9d1c0C 9d1c0B 9d1c0C 9d1c0B 9d1c0C 9d1c0B 9d1c0C 9d1c0B 9q000C asw00B 7x6o0C",
     "asw00B 7x6o0C asw00B 7x6o0C b5uo0B 7k800C b5uo0B 7k800C b5uo0B 7x6o0C asw00B 7x6o0C",
     "asw00B 7x6o0C b5uo0B 7k800C b5uo0B 7k800C b5uo0B 7k800C b5uo0B 7x6o0C asw00B 7x6o0C",
     "asw00B 7x6o0C b5uo0B 7k800C b5uo0B 7k800C b5uo0B 7x6o0C asw00B 7x6o0C asw00B 7x6o0C",
     "asw00B 7x6o0C b5uo0B 7k800C b5uo0B 7k800C b5uo0B 7x6o0C asw00B 7x6o0C asw00B 7x6o0C",
     "b5uo0B 7k800C b5uo0B 7k800C j31c0D asw00C 7x6o0D asw00C 7x6o0D asw00C 7x6o0D b5uo0C",
     "7k800D b5uo0C 7k800D b5uo0C 7x6o0D asw00C 7x6o0D asw00C 7x6o0D b5uo0C 7k800D b5uo0C",
     "7k800D b5uo0C 7k800D b5uo0C 7x6o0D asw00C 7x6o0D asw00C 4ffjjC"],
    "<-02>2<-01>,M3.5.0/-1,M10.5.0/0"⟩,
  ⟨["America/Ojinaga"],
    "-25060/LMT -25200/MST -21600/CST -21600/MDT -18000/CDT",
    ["-p1u4k0B 2u5s00C 1si580B 8jhg0D 7x3w0B 9eys0C xes2s0E afuk0C 8a840E afuk0C 8aaw0D afuk0B",
     "8a840D ast80B 7x9g0D ast80B 9q2s0D 7k580B 9q2s0D afuk0B 8a840D afuk0B 8a840D ast80B",
     "7x9g0D ast80B 7x9g0D ast80B 7x9g0D ast80B 8a840D afuk0B 8a840D afuk0B 77c40D c8nw0B",
     "6hes0D c8nw0B 6hes0D c8nw0B 6hes0D c8nw0B 6hes0D c8nw0B 6hes0D c8nw0B 6udg0D c8nw0B",
     "6hes0D c8nw0B 6hes0D c8nw0B 6hes0D c8nw0B 6hes0D c8nw0B 6udg0D c8nw0B 6hes0D bvp80C",
     "6uao0E"],
    "CST6CDT,M3.2.0,M11.1.0"⟩,
  ⟨["America/Panama", "America/Atikokan", "America/Cayman", "America/Coral_Harbour", "EST"],
    "-19088/LMT -19176/CMT -18000/EST",
    ["-15r0ulsB 9jvmqgC"],
    "EST5"⟩,
  ⟨["America/Paramaribo"],
    "-13240/LMT -13252/PMT -13236/PMT -12600/-0330 -10800/-03",
    ["-usj4g8B cixc0cC 5lydbkD kcrm6cE rtftxjE"],
    "<-03>3"⟩,
  ⟨["America/Phoenix", "America/Creston", "MST", "US/Arizona"],
    "-26898/LMT -25200/MST -21600/MDT -21600/MWT",
    ["-18y0j80B hxltk0C ast80B 7x9g0C ast80B bmtus0D zjedoB 4olg0D 9et80B bs6lmcC 9cyk0B"],
    "MST7"⟩,
  ⟨["America/Port-au-Prince"],
    "-17360/LMT -17340/PPMT -18000/EST -14400/EDT",
    ["-15r0vxsB e4gmngC ylcf6cD 8zzw0C 9d440D 9cyk0C 9d440D 9cyk0C 9d440D 9cyk0C 9d440D 9cyk0C",
     "8aaw0D asw00C 7x6o0D asw00C 7x6o0D asw00C 8a5c0D afxc0C 8a5c0D afxc0C 8a5c0D asw00C",
     "7x6o0D asw00C 7x6o0D asw00C 8a5c0D afxc0C 8a5c0D afxc0C 3vpjw0D ast80C 7x9g0D ast80C",
     "2stv00D c8nw0C 6hes0D c8nw0C 6hes0D c8nw0C 6hes0D c8nw0C pkg40D"],
    "EST5EDT,M3.2.0,M11.1.0"⟩,
  ⟨["America/Porto_Velho"],
    "-15336/LMT -14400/-04 -10800/-03",
    ["-t85g60B 99k8i0C 9a9c0B 9io40C 99980B 8p65g0C 6zuo0B bs2o0C 67zw0B cjxg0C 69uk0B cjxg0C",
     "4ml80B 5mf440C 49mk0B haas0C 316k0B cls40C 4ml80B cls40C 66580B cls40C 67zw0B 981s40C",
     "6u7w0B biw40C 5rbw0B d0lg0C 5ed80B q2h7bjB"],
    "<-04>4"⟩,
  ⟨["America/Puerto_Rico", "America/Anguilla", "America/Antigua", "America/Aruba",
    "America/Blanc-Sablon", "America/Curacao", "America/Dominica", "America/Grenada",
    "America/Guadeloupe", "America/Kralendijk", "America/Lower_Princes", "America/Marigot",
    "America/Montserrat", "America/Port_of_Spain", "America/St_Barthelemy", "America/St_Kitts",
    "America/St_Lucia", "America/St_Thomas", "America/St_Vincent", "America/Tortola",
    "America/Virgin"],
    "-15865/LMT -14400/AST -10800/AWT -10800/APT",
    ["-10xhp3bB mhp1jbC 1ppu40D 2dnc0B"],
    "AST4"⟩,
  ⟨["America/Punta_Arenas"],
    "-17020/LMT -16965/SMT -18000/-05 -14400/-04 -10800/-03",
    ["-15r0w78B ag6lahC 3dlssrB 157b79D f4e0rB 49hzb9D aye0rC 7ves0D awik0C 7ves0D awik0C",
     "7ves0D awik0C 7ves0D ayd80C 7ves0D 534ik0C 351g0D 24lbw0D b25c0C 2mg00D b73400E 7k580D",
     "c8tg0E 6h980D a31g0E 7x3w0D asys0E 7x3w0D b5xg0E 7k580D ag040E 8a2k0D b5xg0E 7k580D",
     "b5xg0E 7x3w0D asys0E 7x3w0D asys0E 7x3w0D b5xg0E 7k580D b5xg0E 7k580D b5xg0E 7x3w0D",
     "asys0E 7x3w0D asys0E 7x3w0D asys0E 7x3w0D b5xg0E 7k580D b5xg0E 7k580D b5xg0E 9cyk0D",
     "9d440E 7x3w0D asys0E 7x3w0D b5xg0E 7k580D 9q2s0E 8zzw0D b5xg0E 7x3w0D asys0E 7x3w0D",
     "asys0E 7x3w0D asys0E 7x3w0D b5xg0E 7k580D b5xg0E 8n180D a31g0E 7x3w0D a31g0E 9px80D",
     "9q2s0E 7x3w0D b5xg0E 7k580D b5xg0E 7k580D b5xg0E 7k580D b5xg0E 7x3w0D asys0E 7x3w0D",
     "asys0E 7x3w0D b5xg0E 7k580D b5xg0E 8n180D a31g0E 7x3w0D asys0E 8zzw0D 9q2s0E ast80D",
     "5eis0E cyl80D 6hes0E c8nw0D 6udg0E bvp80D 6udg0E vonw0D 4olg0E 5rbw0E b0wwnjE"],
    "<-03>3"⟩,
  ⟨["America/Rankin_Inlet"],
    "0/-00 -21600/CST -18000/CDT -18000/EST",
    ["-6s8lc0B 7zza80C 9cyk0B 9d440C 9cyk0B 9d440C 9cyk0B 9d440C 9cyk0B 9d440C 9px80B 905g0C",
     "9px80B 9d440C 9cyk0B 9d440C 9cyk0B 9d440C 9cyk0B 9d440C 9cyk0B 9d440C 9px80B 905g0C",
     "9px80B 9d440C 9cyk0B 9d440C 9cyk0B 9d440C 9cyk0B 8a840C afuk0B 8a840C ast80B 7x9g0C",
     "ast80B 7x9g0C ast80B 8a840C afuk0B 8a840C afuk0B 8a840C ast80B 7x9g0C ast80B 7x9g0C",
     "ast80B 8a840C afuk0B 8a840C afuk0B 8a840C afuk0B 8a840C ast80B 7x9g0C ast80D 7x9g0C",
     "ast80B 8a840C afuk0B 8a840C afuk0B 8a840C ast80B 7x9g0C ast80B 7x9g0C ast80B 6udg0C"],
    "CST6CDT,M3.2.0,M11.1.0"⟩,
  ⟨["America/Recife"],
    "-8376/LMT -10800/-03 -7200/-02",
    ["-t85ljcB 99kb3cC 9a9c0B 9io40C 99980B 8p65g0C 6zuo0B bs2o0C 67zw0B cjxg0C 69uk0B cjxg0C",
     "4ml80B 5mf440C 49mk0B haas0C 316k0B cls40C 4ml80B cls40C 66580B cls40C 67zw0B 981s40C",
     "6u7w0B biw40C 5rbw0B d0lg0C 5ed80B cyqs0C 5ed80B dbpg0C 64ak0B 514g40C 7k580B biw40C",
     "cvw0B iq5g0C 6h980B iqwe3jB"],
    "<-03>3"⟩,
  ⟨["America/Regina", "Canada/Saskatchewan"],
    "-25116/LMT -25200/MST -21600/MDT -21600/MWT -21600/MPT -21600/CST",
    ["-xkq9ycB 6l1hmcC a2vw0B 60enw0C 7x3w0B asys0C 7x3w0B asys0C 7x3w0B b5xg0C 7k580B b5xg0C",
     "7x3w0B 1b6840C 9cyk0B 9d440C 8zzw0B 9q2s0C 9cyk0B 9q2s0C 9cyk0B 9d440C 9cyk0B 66gc0D",
     "1tz5k0E 2dvo0B a31g0C 9cyk0B a31g0C 7x3w0B asys0C 7x3w0B asys0C 7x3w0B b5xg0C 7k580B",
     "b5xg0C 7x3w0B asys0C 7x3w0B asys0C 7x3w0B asys0C 7x3w0B asys0C 7x3w0B b5xg0C 7x3w0B",
     "asys0C 7x3w0B tj1g0C 9cyk0B 9d440F"],
    "CST6"⟩,
  ⟨["America/Resolute"],
    "0/-00 -21600/CST -18000/CDT -18000/EST",
    ["-bnp9c0B cvfy80C 9cyk0B 9d440C 9cyk0B 9d440C 9cyk0B 9d440C 9cyk0B 9d440C 9px80B 905g0C",
     "9px80B 9d440C 9cyk0B 9d440C 9cyk0B 9d440C 9cyk0B 9d440C 9cyk0B 9d440C 9px80B 905g0C",
     "9px80B 9d440C 9cyk0B 9d440C 9cyk0B 9d440C 9cyk0B 8a840C afuk0B 8a840C ast80B 7x9g0C",
     "ast80B 7x9g0C ast80B 8a840C afuk0B 8a840C afuk0B 8a840C ast80B 7x9g0C ast80B 7x9g0C",
     "ast80B 8a840C afuk0B 8a840C afuk0B 8a840C afuk0B 8a840C ast80B 7x9g0C ast80D 7x9g0C",
     "ast80B 8a840C afuk0B 8a840C afuk0B 8a840C ast80B 7x9g0C ast80B 7x9g0C ast80D 6udg0C"],
    "CST6CDT,M3.2.0,M11.1.0"⟩,
  ⟨["America/Rio_Branco", "America/Porto_Acre", "Brazil/Acre"],
    "-16272/LMT -18000/-05 -14400/-04",
    ["-t85fg0B 99kak0C 9a9c0B 9io40C 99980B 8p65g0C 6zuo0B bs2o0C 67zw0B cjxg0C 69uk0B cjxg0C",
     "4ml80B 5mf440C 49mk0B haas0C 316k0B cls40C 4ml80B cls40C 66580B cls40C 67zw0B 981s40C",
     "6u7w0B biw40C 5rbw0B d0lg0C 5ed80B amves0C 2t2t80B cmiwjjB"],
    "<-05>5"⟩,
  ⟨["America/Santarem"],
    "-13128/LMT -14400/-04 -10800/-03",
    ["-t85hvcB 99ka7cC 9a9c0B 9io40C 99980B 8p65g0C 6zuo0B bs2o0C 67zw0B cjxg0C 69uk0B cjxg0C",
     "4ml80B 5mf440C 49mk0B haas0C 316k0B cls40C 4ml80B cls40C 66580B cls40C 67zw0B 981s40C",
     "6u7w0B biw40C 5rbw0B d0lg0C 5ed80B amves0C fflsjjC"],
    "<-03>3"⟩,
  ⟨["America/Santiago", "Chile/Continental"],
    "-16965/LMT -16965/SMT -18000/-05 -14400/-04 -10800/-03",
    ["-15r0w8rB ag6lc0C 3dlssrB 157b79D f4e0rB 49hzb9D aye0rC 7ves0D awik0C 7ves0D awik0C",
     "7ves0D awik0C 7ves0D ayd80C 7ves0D 534ik0C 351g0D 229zw0E 2b980D b2840C 2mg00D b73400E",
     "7k580D c8tg0E 6h980D a31g0E 7x3w0D asys0E 7x3w0D b5xg0E 7k580D ag040E 8a2k0D b5xg0E",
     "7k580D b5xg0E 7x3w0D asys0E 7x3w0D asys0E 7x3w0D b5xg0E 7k580D b5xg0E 7k580D b5xg0E",
     "7x3w0D asys0E 7x3w0D asys0E 7x3w0D asys0E 7x3w0D b5xg0E 7k580D b5xg0E 7k580D b5xg0E",
     "9cyk0D 9d440E 7x3w0D asys0E 7x3w0D b5xg0E 7k580D 9q2s0E 8zzw0D b5xg0E 7x3w0D asys0E",
     "7x3w0D asys0E 7x3w0D asys0E 7x3w0D b5xg0E 7k580D b5xg0E 8n180D a31g0E 7x3w0D a31g0E",
     "9px80D 9q2s0E 7x3w0D b5xg0E 7k580D b5xg0E 7k580D b5xg0E 7k580D b5xg0E 7x3w0D asys0E",
     "7x3w0D asys0E 7x3w0D b5xg0E 7k580D b5xg0E 8n180D a31g0E 7x3w0D asys0E 8zzw0D 9q2s0E",
     "ast80D 5eis0E cyl80D 6hes0E c8nw0D 6udg0E bvp80D 6udg0E vonw0D 4olg0E e1h80D 4olg0E",
     "e1h80D 4olg0E c8nw0D 7x9g0E ast80D 7x9g0E ast80D 7x9g0E ast80D 8a840E afuk0D 7x9g0E",
     "b5rw0D 7x9g0E ast80D 7x9g0E ast80D 7x9g0E ast80D 7x9g0E ast80D 7x9g0E b5rw0D 7kas0E",
     "b5rw0D 7x9g0E ast80D 7x9g0E ast80D 7x9g0E ast80D 7x9g0E ast80D 7x9g0E b5rw0D 7kas0E",
     "b5rw0D 7x9g0E ast80D 7x9g0E 6xxvjE"],
    "<-04>4<-03>,M9.1.6/24,M4.1.6/24"⟩,
  ⟨["America/Santo_Domingo"],
    "-16776/LMT -16800/SDMT -18000/EST -14400/EDT -16200/-0430 -14400/AST",
    ["-15r0we0B mkixcoC hiw29cD 67zw0C 1dy840E 62ha0C cnle0E 4h2m0C elyq0E 47ta0C ei9e0E",
     "4bim0C eek20E 4dda0C ecpe0F dkmtg0C 1stc0F"],
    "AST4"⟩,
  ⟨["America/Sao_Paulo", "Brazil/East"],
    "-11188/LMT -10800/-03 -7200/-02",
    ["-t85jd8B 99k8x8C 9a9c0B 9io40C 99980B 8p65g0C 6zuo0B bs2o0C 67zw0B cjxg0C 69uk0B cjxg0C",
     "4ml80B 5k02s0C 6onw0B haas0C 316k0B cls40C 4ml80B cls40C 66580B cls40C 67zw0B 981s40C",
     "6u7w0B biw40C 5rbw0B d0lg0C 5ed80B cyqs0C 5ed80B dbpg0C 64ak0B cyqs0C 64ak0B cls40C",
     "5rbw0B dbpg0C 51ek0B dbpg0C 6h980B c8tg0C 6h980B c8tg0C 64ak0B c8tg0C 6u7w0B bxpg0C",
     "7iak0B biw40C 6u7w0B biw40C 7k580B biw40C 6u7w0B c8tg0C 6h980B dbpg0C 5ed80B cls40C",
     "64ak0B dfes0C 5nmk0B c8tg0C 6h980B dbpg0C 5rbw0B bvus0C 6h980B cls40C 64ak0B cls40C",
     "6h980B c8tg0C 6h980B c8tg0C 6u7w0B c8tg0C 64ak0B cls40C 64ak0B cls40C 6h980B c8tg0C",
     "6h980B c8tg0C 6h980B c8tg0C 6h980B dbpg0C 5ed80B 9vi8rjB"],
    "<-03>3"⟩,
  ⟨["America/Scoresbysund"],
    "-5272/LMT -7200/-02 -3600/-01 0/+00",
    ["-rvurxkB x8ntpkC 902o0B 9cvs0D 9cyk0C 9d1c0D 9d1c0C 9d1c0D 9d1c0C 9d1c0D 9q000C 9d1c0D",
     "9d1c0C 9d1c0D 9d1c0C 9d1c0D 9d1c0C 9d1c0D 9d1c0C 9d1c0D 9d1c0C 9d1c0D 9q000C 9d1c0D",
     "9d1c0C 9d1c0D 9d1c0C 9d1c0D 9d1c0C 9d1c0D 9d1c0C 9d1c0D 9d1c0C 9q000D asw00C 7x6o0D",
     "asw00C 7x6o0D asw00C 7x6o0D b5uo0C 7k800D b5uo0C 7k800D b5uo0C 7x6o0D asw00C 7x6o0D",
     "asw00C 7x6o0D b5uo0C 7k800D b5uo0C 7k800D b5uo0C 7k800D b5uo0C 7x6o0D asw00C 7x6o0D",
     "asw00C 7x6o0D b5uo0C 7k800D b5uo0C 7k800D b5uo0C 7x6o0D asw00C 7x6o0D asw00C 7x6o0D",
     "asw00C 7x6o0D b5uo0C 7k800D b5uo0C 7k800D b5uo0C 7x6o0D asw00C 7x6o0D asw00C 7x6o0D",
     "b5uo0C 7k800D b5uo0C 7k800D b5uo0C 7x6o0C asw00B 7x6o0C asw00B 7x6o0C asw00B 7x6o0C",
     "b5uo0B 7k800C b5uo0B 7k800C b5uo0B 7x6o0C asw00B 7x6o0C asw00B 7x6o0C b5uo0B 7k800C",
     "b5uo0B 7k800C b5uo0B 7k800C b5uo0B 7x6o0C asw00B 7x6o0C asw00B 4ffjjB"],
    "<-02>2<-01>,M3.5.0/-1,M10.5.0/0"⟩,
  ⟨["America/Sitka"],
    "53927/LMT -32473/LMT -28800/PST -25200/PWT -25200/PPT -25200/PDT -32400/YST -32400/AKST -28800/AKDT",
    ["-1hc7qjzB h4yua0C ln701zD 1tz2s0E 2dyg0C cawis0F 9cyk0C 9d440F 9cyk0C 9d440F 9px80C",
     "9d440F 9cyk0C 9d440F 9cyk0C 3lpg0F f4d80C 64g40F clmk0C 9d440F 9px80C 905g0F 9px80C",
     "9d440F 9cyk0C 9d440F 9cyk0C 9d440F 9cyk0C 9d440F 9cyk0C 9d440F 9px80C 905g0F 9px80G",
     "1leo0H 7rs80I 9cyk0H 9d440I 9cyk0H 9d440I 9cyk0H 8a840I afuk0H 8a840I ast80H 7x9g0I",
     "ast80H 7x9g0I ast80H 8a840I afuk0H 8a840I afuk0H 8a840I ast80H 7x9g0I ast80H 7x9g0I",
     "ast80H 8a840I afuk0H 8a840I afuk0H 8a840I afuk0H 8a840I ast80H 7x9g0I ast80H 7x9g0I",
     "ast80H 8a840I afuk0H 8a840I afuk0H 8a840I ast80H 7x9g0I ast80H 7x9g0I ast80H 6udg0I"],
    "AKST9AKDT,M3.2.0,M11.1.0"⟩,
  ⟨["America/St_Johns", "Canada/Newfoundland"],
    "-12652/LMT -12652/NST -9052/NDT -12600/NST -9000/NDT -9000/NWT -9000/NPT -5400/NDDT",
    ["-18vs8wkB hd05k0C 8bx80B ar440C a2vw0B 9tjs0C 53980B dkys0C 9cyk0B 9d440C 9cyk0B 9q2s0C",
     "8zzw0B 9q2s0C 8zzw0B 9q2s0C 8zzw0B 9q2s0C 8zzw0B 9q2s0C 9cyk0B 9d440C 9cyk0B 9q2s0C",
     "8zzw0B 9q2s0C 8zzw0B 9q2s0C 8zzw0B 9q2s0C 8zzw0B 9q2s0C 9cyk0B 9q2s0C 8zzw0B 9q2s0C",
     "8zzw0B 7tmw0D 1wfukE 8zzw0D a3480E 7k580D b5xg0E 7k580D b5xg0E 7k580D biw40E 776k0D",
     "biw40E 7k580D b5xg0E 7k580D b5xg0F 1pb260G 2dly0D biw40E 7k580D b5xg0E 7k580D b5xg0E",
     "7k580D b5xg0E 7k580D biw40E 7k580D ag040E 7x3w0D asys0E 7x3w0D asys0E 7x3w0D asys0E",
     "7x3w0D asys0E 7x3w0D b5xg0E 7x3w0D asys0E 7x3w0D asys0E 7x3w0D asys0E 7x3w0D asys0E",
     "9px80D 9d440E 9cyk0D 9d440E 9cyk0D 9d440E 9cyk0D 9d440E 9cyk0D 9d440E 9px80D 905g0E",
     "9px80D 9d440E 9cyk0D 9d440E 9cyk0D 9d440E 9cyk0D 9d440E 9cyk0D 9d440E 9px80D 9d440E",
     "9cyk0D 9d440E 9cyk0D 9d440E 9cyk0D 9d440E 9cyk0D 9d440E 9px80D 905g0E 9px80D 9d440E",
     "9cyk0D 9d440E 9cyk0D 9d440E 9cyk0D 9d440E 9cyk0D 9d440E 9px80D 905g0E 9px80D 9d440E",
     "9cyk0D 9d440E 9cyk0D 9d440E 9cyk0D 8a2loE afuk0D 8a840H asqg0D 7xc80E ast80D 7x9g0E",
     "ast80D 8a840E afuk0D 8a840E afuk0D 8a840E ast80D 7x9g0E ast80D 7x9g0E ast80D 8a840E",
     "afuk0D 8a840E afuk0D 8a840E afuk0D 8a840E ast80D 7x9g0E ast80D 7x9g0E ast80D 8a840E",
     "afuk0D 8a840E afuk0D 8a840E ast80D 7x9g0E ast80D 7x9g0E ast80D 6udg0E c8nw0D 6hes0E",
     "c8nw0D 6hes0E c8nw0D 6udg0E c8nw0D 6hes0E c8tecD"],
    "NST3:30NDT,M3.2.0,M11.1.0"⟩,
  ⟨["America/Swift_Current"],
    "-25880/LMT -25200/MST -21600/MDT -21600/MWT -21600/MPT -21600/CST",
    ["-xkq9d4B 6l1h14C a2vw0B c5jxg0D 1tz5k0E 2dvo0B asys0C 8n180B a31g0C 7x3w0B asys0C 7x3w0B",
     "asys0C 7x3w0B 3yles0C 9cyk0B s36s0C 9cyk0B 9d440C 7x3w0B b5xg0C 7k580B 5j4lg0F"],
    "CST6"⟩,
  ⟨["America/Tegucigalpa"],
    "-20932/LMT -21600/CST -18000/CDT",
    ["-pfzh6kB yho0ikC 7k580B b5xg0C 7k580B 96x1g0C 4qak0B"],
    "CST6"⟩,
  ⟨["America/Thule"],
    "-16508/LMT -14400/AST -10800/ADT",
    ["-rvuj9gB 12yzilgC 9cyk0B 9d440C 9cyk0B 9q2s0C ast80B 7x9g0C ast80B 7x9g0C ast80B 8a840C",
     "afuk0B 8a840C afuk0B 8a840C afuk0B 8a840C ast80B 7x9g0C ast80B 7x9g0C ast80B 8a840C",
     "afuk0B 8a840C afuk0B 8a840C ast80B 7x9g0C ast80B 7x9g0C ast80B 6udg0C"],
    "AST4ADT,M3.2.0,M11.1.0"⟩,
  ⟨["America/Tijuana", "America/Ensenada", "America/Santa_Isabel", "Mexico/BajaNorte"],
    "-28084/LMT -25200/MST -28800/PST -25200/PDT -25200/PWT -25200/PPT",
    ["-p1u4k0B 11juo0C 1sm040B 1si580C 71s40D 9cyk0C 5iidg0E 1q6700F 4qzk0C 18uw40D eluk0C",
     "oa5g0D 7iak0C b6300D 7x3w0C asys0D 7x3w0C asw00D 7x6o0C asw00D 7x6o0C asw00D 7x6o0C",
     "b5uo0D 7x6o0C asw00D 7x6o0C asw00D 7x6o0C asw00D 7x6o0C asw00D 7x6o0C b5uo0D 7k800C",
     "b5uo0D 9d1c0C 9d1c0D 9d1c0C 9d1c0D 9d1c0C 9d1c0D 9q000C 902o0D 9q000C 9d440D 9cyk0C",
     "9d440D 9cyk0C 9d440D 9cyk0C 9d440D 9cyk0C 9d440D 9px80C 9d440D 9cyk0C 9d440D 9cyk0C",
     "3lpg0D f4d80C 64g40D clmk0C 9d440D 9px80C 905g0D 9px80C 9d440D 9cyk0C 9d440D 9cyk0C",
     "9d440D 9cyk0C 9d440D 9cyk0C 9d440D 9px80C 905g0D 9px80C 9d440D 9cyk0C 9d440D 9cyk0C",
     "9d440D 9cyk0C 8a840D afuk0C 8a840D ast80C 7x9g0D ast80C 7x9g0D ast80C 8a840D afuk0C",
     "8a840D afuk0C 8a840D ast80C 7x9g0D ast80C 7x9g0D ast80C 8a840D afuk0C 8a840D afuk0C",
     "8a840D afuk0C 8a840D ast80C 7x9g0D ast80C 7x9g0D ast80C 8a840D afuk0C 8a840D afuk0C",
     "8a840D ast80C 7x9g0D ast80C 7x9g0D ast80C 7x9g0D ast80C 8a840D afuk0C 8a840D afuk0C",
     "77c40D"],
    "PST8PDT,M3.2.0,M11.1.0"⟩,
  ⟨["America/Toronto", "America/Montreal", "America/Nassau", "America/Nipigon",
    "America/Thunder_Bay", "Canada/Eastern"],
    "-19052/LMT -18000/EST -14400/EDT -14400/EWT -14400/EPT",
    ["-1353dasB c5efesC a2vw0B 7yx60C aqzy0B 9q8c0C 7jzo0B bw0c0C 6bp80B cedg0C 6h980B c8tg0C",
     "6h980B bvus0C 776k0B biw40C 776k0B biw40C 776k0B biw40C 7k580B b5xg0C 7x3w0B asys0C",
     "7x3w0B asys0C 7x3w0B asys0C 7x3w0B b5xg0C 7k580B b5xg0C 7x3w0B asys0C 7x3w0B asys0C",
     "7x3w0B asys0C 7x3w0B asys0C 7x3w0B asys0C 7x3w0B b5xg0C 7k580B b5xg0C xjeo0D 1tzb40E",
     "2dq40B asys0C 7x3w0B asys0C 7x3w0B asys0C 7x3w0B asys0C b5rw0B 7x9g0C ast80B 7x9g0C",
     "7x3w0B asys0C 7x3w0B asys0C 7x3w0B asys0C 7x3w0B asys0C 7x3w0B b5xg0C 7x3w0B asys0C",
     "9cyk0B 9d440C 9cyk0B 9d440C 9cyk0B 9d440C 9px80B 9d440C 9cyk0B 9d440C 9cyk0B 9d440C",
     "9cyk0B 9d440C 9cyk0B 9d440C 9px80B 905g0C 9px80B 9d440C 9cyk0B 9d440C 9cyk0B 9d440C",
     "9cyk0B 9d440C 9cyk0B 9d440C 9px80B 9d440C 9cyk0B 9d440C 9cyk0B 9d440C 9cyk0B 9d440C",
     "9cyk0B 9d440C 9px80B 905g0C 9px80B 9d440C 9cyk0B 9d440C 9cyk0B 9d440C 9cyk0B 9d440C",
     "9cyk0B 9d440C 9px80B 905g0C 9px80B 9d440C 9cyk0B 9d440C 9cyk0B 9d440C 9cyk0B 8a840C",
     "afuk0B 8a840C ast80B 7x9g0C ast80B 7x9g0C ast80B 8a840C afuk0B 8a840C afuk0B 8a840C",
     "ast80B 7x9g0C ast80B 7x9g0C ast80B 8a840C afuk0B 8a840C afuk0B 8a840C afuk0B 8a840C",
     "ast80B 7x9g0C ast80B 7x9g0C ast80B 8a840C afuk0B 8a840C afuk0B 8a840C ast80B 7x9g0C",
     "ast80B 7x9g0C ast80B 6udg0C"],
    "EST5EDT,M3.2.0,M11.1.0"⟩,
  ⟨["America/Vancouver", "Canada/Pacific"],
    "-29548/LMT -28800/PST -25200/PDT -25200/PWT -25200/PPT",
    ["-18vrvv8B hw36b8C a2vw0B c5jxg0D 1tz2s0E 2dyg0B asys0C 7x3w0B asys0C 7x3w0B asys0C",
     "7x3w0B asys0C 7x3w0B b5xg0C 7k580B b5xg0C 7x3w0B asys0C 7x3w0B asys0C 7x3w0B asys0C",
     "7x3w0B asys0C 7x3w0B b5xg0C 7x3w0B asys0C 7x3w0B asys0C 7x3w0B asys0C 7x3w0B asys0C",
     "7x3w0B b5xg0C 7k580B b5xg0C 9cyk0B 9d440C 9cyk0B 9d440C 9cyk0B 9d440C 9px80B 905g0C",
     "9px80B 9d440C 9cyk0B 9d440C 9cyk0B 9d440C 9cyk0B 9d440C 9cyk0B 9d440C 9px80B 9d440C",
     "9cyk0B 9d440C 9cyk0B 9d440C 9cyk0B 9d440C 9cyk0B 9d440C 9px80B 905g0C 9px80B 9d440C",
     "9cyk0B 9d440C 9cyk0B 9d440C 9cyk0B 9d440C 9cyk0B 9d440C 9px80B 905g0C 9px80B 9d440C",
     "9cyk0B 9d440C 9cyk0B 9d440C 9cyk0B 8a840C afuk0B 8a840C ast80B 7x9g0C ast80B 7x9g0C",
     "ast80B 8a840C afuk0B 8a840C afuk0B 8a840C ast80B 7x9g0C ast80B 7x9g0C ast80B 8a840C",
     "afuk0B 8a840C afuk0B 8a840C afuk0B 8a840C ast80B 7x9g0C ast80B 7x9g0C ast80B 8a840C",
     "afuk0B 8a840C afuk0B 8a840C ast80B 7x9g0C ast80B 7x9g0C ast80B 6udg0C"],
    "PST8PDT,M3.2.0,M11.1.0"⟩,
  ⟨["America/Whitehorse", "Canada/Yukon"],
    "-32412/LMT -32400/YST -28800/YDT -28800/YWT -28800/YPT -25200/YDDT -28800/PST -25200/PDT -25200/MST",
    ["-1079tnoB 97l6voC a2vw0B asys0C 882c0B bmiwc0D 1tz000E 2e180B a7n3w0F 9q000B 64dc0G",
     "7e3pg0H 9cyk0G 9d440H 9cyk0G 9d440H 9px80G 905g0H 9px80G 9d440H 9cyk0G 9d440H 9cyk0G",
     "9d440H 9cyk0G 8a840H afuk0G 8a840H ast80G 7x9g0H ast80G 7x9g0H ast80G 8a840H afuk0G",
     "8a840H afuk0G 8a840H ast80G 7x9g0H ast80G 7x9g0H ast80G 8a840H afuk0G 8a840H afuk0G",
     "8a840H afuk0G 8a840H ast80G 7x9g0H ast80G 7x9g0H ast80G 8a840H afuk0G 8a840H afuk0G",
     "8a840H ast80G 7x9g0H ast80G 7x9g0H ast80G 6udg0H c8nw0G 6hes0H c8nw0G 6hes0H c8nw0G",
     "6udg0H c8nw0G 6hes0H c8nw0G 6hes0H c8nw0G 6hes0H c8nw0G 6hes0H c8nw0G 6hes0H c8nw0G",
     "6udg0H c8nw0G 6hes0H c8nw0G 6hes0H c8nw0G 6hes0H c8nw0G 6hes0H c8ic0I"],
    "MST7"⟩,
  ⟨["America/Winnipeg", "America/Rainy_River", "Canada/Central"],
    "-23316/LMT -21600/CST -18000/CDT -18000/CWT -18000/CPT",
    ["-171bfccB f0j80cC 7k580B tj700C a2vw0B 9ok840C 6u7w0B 2a5hg0D 1tz8c0E 2dsw0B biw40C",
     "7x3w0B a31g0C 7x3w0B asys0C 7x3w0B asys0C 7x3w0B b7s40C 7tek0B autg0C 7x3w0B asys0C",
     "7x3w0B asys0C 7x3w0B asys0C 7x3w0B asys0C 7x3w0B b5xg0C 7x3w0B asys0C 7x3w0B asys0C",
     "7x3w0B asys0C 9cyk0B 9d440C 7x3w0B 1cm2s0C 7k580B 1cm2s0C 9q000B 9d1c0C 9d1c0B 9d1c0C",
     "9d1c0B 9d1c0C 9d1c0B 9d1c0C 9d1c0B 9d1c0C 9q000B 9d1c0C 9d1c0B 9d1c0C 9d1c0B 9d1c0C",
     "9d1c0B 9d1c0C 9d1c0B 9d1c0C 9q000B 902o0C 9q000B 9d1c0C 9d1c0B 9d1c0C 9d1c0B 9d1c0C",
     "9d1c0B 9d1c0C 9d1c0B 9d1c0C 9q000B 902o0C 9q000B 9d1c0C 9d1c0B 9d1c0C 9d1c0B 9d1c0C",
     "9d1c0B 8a5c0C afxc0B 8a5c0C asw00B 7x6o0C asw00B 7x6o0C asw00B 8a5c0C afxc0B 8a5c0C",
     "afxc0B 8a5c0C asw00B 7x6o0C asw00B 7x6o0C asw00B 8a5c0C afxc0B 8a5c0C afxc0B 8a5c0C",
     "afxc0B 8a5c0C asw00B 7x6o0C asw00B 7x6o0C asw00B 8a5c0C afxc0B 8a5c0C afxc0B 8a5c0C",
     "asw00B 7x6o0C asw00B 7x6o0C ast80B 6udg0C"],
    "CST6CDT,M3.2.0,M11.1.0"⟩,
  ⟨["America/Yakutat"],
    "52865/LMT -33535/LMT -32400/YST -28800/YWT -28800/YPT -28800/YDT -32400/AKST -28800/AKDT",
    ["-1hc7qjzB h4yv3iC ln720hD 1tz000E 2e180C cawis0F 9cyk0C 9d440F 9cyk0C 9d440F 9px80C",
     "9d440F 9cyk0C 9d440F 9cyk0C 3lpg0F f4d80C 64g40F clmk0C 9d440F 9px80C 905g0F 9px80C",
     "9d440F 9cyk0C 9d440F 9cyk0C 9d440F 9cyk0C 9d440F 9cyk0C 9d440F 9px80C 905g0F 9px80C",
     "1lbw0G 7rs80H 9cyk0G 9d440H 9cyk0G 9d440H 9cyk0G 8a840H afuk0G 8a840H ast80G 7x9g0H",
     "ast80G 7x9g0H ast80G 8a840H afuk0G 8a840H afuk0G 8a840H ast80G 7x9g0H ast80G 7x9g0H",
     "ast80G 8a840H afuk0G 8a840H afuk0G 8a840H afuk0G 8a840H ast80G 7x9g0H ast80G 7x9g0H",
     "ast80G 8a840H afuk0G 8a840H afuk0G 8a840H ast80G 7x9g0H ast80G 7x9g0H ast80G 6udg0H"],
    "AKST9AKDT,M3.2.0,M11.1.0"⟩]

/-- The regions filed under Antarctica. -/
def antarctica : List ZoneRecord := [
  ⟨["Antarctica/Casey"],
    "0/-00 28800/+08 39600/+11",
    ["-irxc0B lag4o0C 73bo0B uz1o0C 60l80B 2fnh80C pz9g0B at4c0C 89u80B acgc0C 80no0B asw1oC",
     "89wycB ag5poC 89wycB ag5poC 84lacB 7rcf7jB"],
    "<+08>-8"⟩,
  ⟨["Antarctica/Davis"],
    "0/-00 25200/+07 18000/+05",
    ["-6rmdc0B 42jdw0A 27wgs0B l8uss0C 7eqs0B unmk0C 60qs0B dismrjB"],
    "<+07>-7"⟩,
  ⟨["Antarctica/Macquarie"],
    "0/-00 36000/AEST 39600/AEDT",
    ["-10mb9c0B 8ts4g0C 902o0B 11wns0A f4kh40B a6p8g0C 9d1c0B asw00C 6uao0B bvs00C 6uao0B",
     "bvs00C 779c0B bvs00C 64dc0B clpc0C 6hc00B c8qo0C 6hc00B c8qo0C 6hc00B c8qo0C 6uao0B",
     "c8qo0C 6hc00B c8qo0C 6hc00B c8qo0C 6hc00B c8qo0C 6hc00B c8qo0C 6hc00B c8qo0C 7x6o0B",
     "b5uo0C 7k800B b5uo0C 6hc00B c8qo0C 6hc00B c8qo0C 6hc00B bvs00C 7k800B bitc0C 7k800B",
     "bitc0C 779c0B bitc0C 779c0B bitc0C 7x6o0B 9q000C 902o0B 9q000C 902o0B 9q000C 902o0B",
     "9q000C 902o0B 9q000C 9d1c0B 9q000C 902o0B 9q000C 902o0B 9q000C 902o0B 9q000C 902o0B",
     "7x6o0C asw00B a2yo0C 902o0B 9q000C 902o0B 9q000C 902o0B 9q000C 902o0B 9q000C 9d1c0B",
     "9d1c0C 902o0B a2yo0C 9d1c0B 9d1c0C 9d1c0B 9d1c0C s3400B"],
    "AEST-10AEDT,M10.1.0,M4.1.0/3"⟩,
  ⟨["Antarctica/Mawson"],
    "0/-00 21600/+06 18000/+05",
    ["-8aelc0B t22y80C eqvo3jC"],
    "<+05>-5"⟩,
  ⟨["Antarctica/Palmer"],
    "0/-00 -10800/-03 -14400/-04 -7200/-02",
    ["-2lxhc0B 31ho0C bqas0B 71mk0C bqas0B 8ovw0C 9d440B 9px80C 9d440B 9cyk0C 9d440B 28t6k0D",
     "51ek0B 46b6s0C 8c2s0B 7x3w0C asys0B 7x3w0C b5xg0B 7k580C b5xg0B 7k580C b5xg0B 9cyk0C",
     "9d440B 7x3w0C asys0B 7x3w0C b5xg0B 7k580C 9q2s0B 8zzw0C b5xg0B 7x3w0C asys0B 7x3w0C",
     "asys0B 7x3w0C asys0B 7x3w0C b5xg0B 7k580C b5xg0B 8n180C a31g0B 7x3w0C a31g0B 9px80C",
     "9q2s0B 7x3w0C b5xg0B 7k580C b5xg0B 7k580C b5xg0B 7k580C b5xg0B 7x3w0C asys0B 7x3w0C",
     "asys0B 7x3w0C b5xg0B 7k580C b5xg0B 8n180C a31g0B 7x3w0C asys0B 8zzw0C 9q2s0B ast80C",
     "5eis0B cyl80C 6hes0B c8nw0C 6udg0B bvp80C 6udg0B vonw0C 4olg0B 5rbw0B b0wwnjB"],
    "<-03>3"⟩,
  ⟨["Antarctica/Rothera"],
    "0/-00 -10800/-03",
    ["3lxs00B vwm8zjB"],
    "<-03>3"⟩,
  ⟨["Antarctica/Troll"],
    "0/-00 0/+00 7200/+02",
    ["ibruo0B 27pg0C b5uo0B 7k800C b5uo0B 7k800C b5uo0B 7x6o0C asw00B 7x6o0C asw00B 7x6o0C",
     "b5uo0B 7k800C b5uo0B 7k800C b5uo0B 7x6o0C asw00B 7x6o0C asw00B 7x6o0C asw00B 7x6o0C",
     "b5uo0B 7k800C b5uo0B 7k800C b5uo0B 7x6o0C asw00B 7x6o0C asw00B 7x6o0C b5uo0B 7k800C",
     "b5uo0B 7k800C b5uo0B 7x6o0C asw00B 7x6o0C asw00B 7x6o0C asw00B 7x6o0C b5uo0B 7k800C",
     "b5uo0B 7k800C b5uo0B 7x6o0C asw00B 7x6o0C asw00B 7x6o0C b5uo0B 7k800C b5uo0B 7k800C",
     "b5uo0B 7k800C b5uo0B 7x6o0C asw00B 7x6o0C asw00B 4ffjjB"],
    "<+00>0<+02>-2,M3.5.0/1,M10.5.0/3"⟩,
  ⟨["Antarctica/Vostok"],
    "0/-00 25200/+07 18000/+05",
    ["-6aaao0B iushw0A e23g0B f79gs0C 7cq9jjC"],
    "<+05>-5"⟩]

/-- The regions filed under Asia. -/
def asia : List ZoneRecord := [
  ⟨["Asia/Almaty"],
    "18468/LMT 18000/+05 21600/+06 25200/+07",
    ["-nu1a90B 37a0d0C qi27w0D 9et80C 9d440D 9et80C 9d440D 9et80C 9eys0D 9d6w0C 9d1c0D 9d1c0C",
     "9d1c0D 9d1c0C 9d1c0D 9d1c0C 9d1c0D 9d1c0C 9d1c0D 9d1c0C 9d1c0D 9q000C 9d1c0C 9d440B",
     "5reo0C 3ljw0D 9d1c0C 9d1c0D 9d1c0C 9d1c0D 9d1c0C 9d1c0D 9d1c0C 9q000D asw00C 7x6o0D",
     "asw00C 7x6o0D asw00C 7x6o0D b5uo0C 7k800D b5uo0C 7k800D b5uo0C 7x6o0D asw00C 7x6o0D",
     "asw00C 7x6o0D b5uo0C a37rs0B 78xazjB"],
    "<+05>-5"⟩,
  ⟨["Asia/Amman"],
    "8624/LMT 7200/EET 10800/EEST 10800/+03",
    ["-kcrtbkB m566fkC 60l80B awo40C 7v980B awo40C 7v980B ayis0C 9gnw0B 9b9g0C 7v980B autg0C",
     "7v980B 3e6840C 9et80B 9io40C 9cyk0B 9d440C 9cyk0B 9d440C 9px80B ayis0C 7rjw0B ag040C",
     "8a2k0B 9zc40C 8drw0B a31g0C 8zzw0B 9d440C 9cyk0B 9d440C 8n180B ag040C 8a5c0B afxc0C",
     "8n400B a2yo0C 8n400B a2yo0C 8n400B epmo0C 4deo0B 9o5c0C 9ew00B 9b6o0C 9ew00B 9d1c0C",
     "9d1c0B 9d1c0C asw00B 7x6o0C afxc0B 8n400C 9d1c0B 9d1c0C asw00B 7x6o0C asw00B 7x6o0C",
     "b5uo0B 7k800C b5uo0B 7k800C b5uo0B 7x6o0C asw00B 7x6o0C wel80B 51k40C b5uo0B 7k800C",
     "b5uo0B 7x6o0C asw00B 7x6o0C asw00B 7x6o0C asw00B 7x6o0C asw00B 7x6o0C b5uo0B 7k800C",
     "b5uo0B 64dc0C clpc0D 7y4ejjD"],
    "<+03>-3"⟩,
  ⟨["Asia/Anadyr"],
    "42596/LMT 43200/+12 46800/+13 50400/+14 39600/+11",
    ["-nu1sv8B 379zj8C qi27w0D 9et80C 9d440C 9ew00B 9d440C 9et80B 9eys0C 9d6w0B 9d1c0C 9d1c0B",
     "9d1c0C 9d1c0B 9d1c0C 9d1c0B 9d1c0C 9d1c0B 9d1c0C 9d1c0B 9d1c0C 9q000B 9d1c0B 9d440E",
     "5reo0B 3ljw0C 9d1c0B 9d1c0C 9d1c0B 9d1c0C 9d1c0B 9d1c0C 9d1c0B 9q000C asw00B 7x6o0C",
     "asw00B 7x6o0C asw00B 7x6o0C b5uo0B 7k800C b5uo0B 7k800C b5uo0B 7x6o0C asw00B 7x6o0C",
     "asw00B 7x6o0C b5uo0B 7k800C b5uo0B 7k800C b5uo0B 7k800C b5uo0B 7x6o0C asw00B 7x6o0C",
     "asw00B 7x6o0B b5xg0E 7k800B dzvtzjB"],
    "<+12>-12"⟩,
  ⟨["Asia/Aqtau"],
    "12064/LMT 14400/+04 18000/+05 21600/+06",
    ["-nu15b4B 379y74C qrh3w0D 9cyk0D 9ew00C 9d440D 9et80C 9eys0D 9d6w0C 9d1c0D 9d1c0C 9d1c0D",
     "9d1c0C 9d1c0D 9d1c0C 9d1c0D 9d1c0C 9d1c0D 9d1c0C 9d1c0D 9q000C 9d1c0C 9d440B 5reo0C",
     "3ljw0D 9d1c0C 9d1c0D 9d1c0C 9d1c0D 9d1c0B 9d440C 9d1c0B 9q000C asw00B 7x6o0C asw00B",
     "7x6o0C asw00B 7x6o0C b5uo0B 7k800C b5uo0B 7k800C b5uo0B 7x6o0C asw00B 7x6o0C asw00B",
     "7x6o0C b5uo0C hc4x7jC"],
    "<+05>-5"⟩,
  ⟨["Asia/Aqtobe"],
    "13720/LMT 14400/+04 18000/+05 21600/+06",
    ["-nu16l4B 379zh4C qi27w0D 9et80D 9d1c0D 9ew00C 9d440D 9et80C 9eys0D 9d6w0C 9d1c0D 9d1c0C",
     "9d1c0D 9d1c0C 9d1c0D 9d1c0C 9d1c0D 9d1c0C 9d1c0D 9d1c0C 9d1c0D 9q000C 9d1c0C 9d440B",
     "5reo0C 3ljw0D 9d1c0C 9d1c0D 9d1c0C 9d1c0D 9d1c0C 9d1c0D 9d1c0C 9q000D asw00C 7x6o0D",
     "asw00C 7x6o0D asw00C 7x6o0D b5uo0C 7k800D b5uo0C 7k800D b5uo0C 7x6o0D asw00C 7x6o0D",
     "asw00C 7x6o0D b5uo0C hc4zzjC"],
    "<+05>-5"⟩,
  ⟨["Asia/Ashgabat", "Asia/Ashkhabad"],
    "14012/LMT 14400/+04 18000/+05 21600/+06",
    ["-nu16t8B 379zp8C qi27w0D 9et80C 9d440D 9et80C 9d440D 9et80C 9eys0D 9d6w0C 9d1c0D 9d1c0C",
     "9d1c0D 9d1c0C 9d1c0D 9d1c0C 9d1c0D 9d1c0C 9d1c0D 9d1c0C 9d1c0D 9q000C 9d1c0C 9d440B",
     "5reo0C o0b7vjC"],
    "<+05>-5"⟩,
  ⟨["Asia/Atyrau"],
    "12464/LMT 10800/+03 18000/+05 21600/+06 14400/+04",
    ["-nu15m8B 37a1a8C qrh140D 9cyk0D 9ew00C 9d440D 9et80C 9eys0D 9d6w0C 9d1c0D 9d1c0C 9d1c0D",
     "9d1c0C 9d1c0D 9d1c0C 9d1c0D 9d1c0C 9d1c0D 9d1c0C 9d1c0D 9q000C 9d1c0C 9d440E 5reo0C",
     "3ljw0D 9d1c0C 9d1c0D 9d1c0C 9d1c0D 9d1c0C 9d1c0D 9d1c0C 9q000D asw00C 7x6o0D asw00C",
     "7x6o0D asw00C 7x6o0C b5xg0E 7k800C b5uo0E 7k800C b5uo0E 7x6o0C asw00E 7x6o0C asw00E",
     "7x6o0C b5uo0C hc4x7jC"],
    "<+05>-5"⟩,
  ⟨["Asia/Baghdad"],
    "10660/LMT 10656/BMT 10800/+03 14400/+04",
    ["-15r1hk4B em11c4C xkn3w0D 7v980C 9b9g0D 9gnw0C 9eys0D 9et80C 9d440D 9b9g0C 9d1c0D 9d1c0C",
     "9d1c0D 9d1c0C 9d1c0D 9d1c0C 9d1c0D 9d1c0C 9d1c0D 9q000C 9f1k0D 9ew00C 9ew00D 9ew00C",
     "9d1c0D 9ew00C 9d1c0D 9ew00C 9d1c0D 9ew00C 9ew00D 9ew00C 9d1c0D 9ew00C 9d1c0D 9ew00C",
     "9d1c0D 9ew00C 9ew00D 9ew00C 9d1c0D 9ew00C 9d1c0D 9ew00C 9d1c0D 9ew00C 9ew00D 9ew00C",
     "9d1c0D 9ew00C 9d1c0D 9ew00C 9d1c0D 9ew00C ftcjnjC"],
    "<+03>-3"⟩,
  ⟨["Asia/Baku"],
    "11964/LMT 10800/+03 14400/+04 18000/+05",
    ["-nu158cB h4tkwcC ckinw0D 9et80C 9d440D 9et80C 9d440D 9et80C 9eys0D 9d6w0C 9d1c0D 9d1c0C",
     "9d1c0D 9d1c0C 9d1c0D 9d1c0C 9d1c0D 9d1c0C 9d1c0D 9d1c0C 9d1c0D 9q000C 9d1c0C 9d440B",
     "9d1c0C 9d1c0C 1twdk0D asw00C 7x3w0D asw00C 7x6o0D asw00C 7x6o0D b5uo0C 7k800D b5uo0C",
     "7k800D b5uo0C 7x6o0D asw00C 7x6o0D asw00C 7x6o0D b5uo0C 7k800D b5uo0C 7k800D b5uo0C",
     "7k800D b5uo0C 7x6o0D asw00C 7x6o0D asw00C 7x6o0D b5uo0C 7k800D b5uo0C 7k800D b5uo0C",
     "7x6o0D asw00C 7x6o0D asw00C 7x6o0D asw00C blsznjC"],
    "<+04>-4"⟩,
  ⟨["Asia/Bangkok", "Asia/Phnom_Penh", "Asia/Vientiane", "Indian/Christmas"],
    "24124/LMT 24124/BMT 25200/+07",
    ["-1ayyla4B l06800C 1phce9nC"],
    "<+07>-7"⟩,
  ⟨["Asia/Barnaul"],
    "20100/LMT 21600/+06 25200/+07 28800/+08",
    ["-q4ljicB 5hu6ucC qi27w0D 9et80C 9d440D 9et80C 9d440D 9et80C 9eys0D 9d6w0C 9d1c0D 9d1c0C",
     "9d1c0D 9d1c0C 9d1c0D 9d1c0C 9d1c0D 9d1c0C 9d1c0D 9d1c0C 9d1c0D 9q000C 9d1c0C 9d440B",
     "5reo0C 3ljw0D 9d1c0C 9d1c0D 9d1c0C 9d1c0D 9d1c0C 9d1c0D 38fo0C 64og0B 9q000C asw00B",
     "7x6o0C asw00B 7x6o0C asw00B 7x6o0C b5uo0B 7k800C b5uo0B 7k800C b5uo0B 7x6o0C asw00B",
     "7x6o0C asw00B 7x6o0C b5uo0B 7k800C b5uo0B 7k800C b5uo0B 7k800C b5uo0B 7x6o0C asw00B",
     "7x6o0C asw00B 7x6o0C b5uo0B 7k800C 1vbzw0B qnc40C bdw43jC"],
    "<+07>-7"⟩,
  ⟨["Asia/Beirut"],
    "8520/LMT 7200/EET 10800/EEST",
    ["-1ayy98oB kzyucoC aunw0B 88dg0C 9et80B 8yas0C a2vw0B a31g0C 7k580B hjqo40C 7v980B awo40C",
     "7v980B awo40C 7v980B ayis0C 7v980B awo40C 7v980B 5lhs40C 56yk0B awo40C 7v980B awo40C",
     "7v980B awo40C 7v980B ayis0C 7v980B awo40C 7v980B autg0C 7v980B 2wxus0C 8n180B a4w40C",
     "8n180B a4w40C 8n180B a4w40C 8n180B bs5g0C 71mk0B alk40C 86d80B a4w40C 8n180B a4w40C",
     "8n180B a6qs0C 80t80B 905g0C 9cyk0B 9d440C 9cyk0B 9d440C 9cyk0B 9q2s0C 9cyk0B 9d440C",
     "9cyk0B 9d440C 9cyk0B 9d440C"],
    "EET-2EEST,M3.5.0/0,M10.5.0/0"⟩,
  ⟨["Asia/Bishkek"],
    "17904/LMT 18000/+05 21600/+06 25200/+07",
    ["-nu19tcB 379zxcC qi27w0D 9et80C 9d440D 9et80C 9d440D 9et80C 9eys0D 9d6w0C 9d1c0D 9d1c0C",
     "9d1c0D 9d1c0C 9d1c0D 9d1c0C 9d1c0D 9d1c0C 9d1c0D 9d1c0C 9d1c0D 9q000C 9d1c0C 7vc00B",
     "bkl80C 8n180B a31g0C 8n180B a31g0C 8n180B a31g0C 8n180B a31g0C 8zzw0B 9db20C ast80B",
     "7x9g0C ast80B 7x9g0C b5rw0B 7kas0C b5rw0B 7kas0C b5rw0B 7x9g0C ast80B 7x9g0C ast80B",
     "7x9g0C b5rw0B 7kas0C 73aa0C gxhgbjC"],
    "<+06>-6"⟩,
  ⟨["Asia/Chita"],
    "27232/LMT 28800/+08 32400/+09 36000/+10",
    ["-q4cfogB 5hkxggC qi27w0D 9et80C 9d440D 9et80C 9d440D 9et80C 9eys0D 9d6w0C 9d1c0D 9d1c0C",
     "9d1c0D 9d1c0C 9d1c0D 9d1c0C 9d1c0D 9d1c0C 9d1c0D 9d1c0C 9d1c0D 9q000C 9d1c0C 9d440B",
     "5reo0C 3ljw0D 9d1c0C 9d1c0D 9d1c0C 9d1c0D 9d1c0C 9d1c0D 9d1c0C 9q000D asw00C 7x6o0D",
     "asw00C 7x6o0D asw00C 7x6o0D b5uo0C 7k800D b5uo0C 7k800D b5uo0C 7x6o0D asw00C 7x6o0D",
     "asw00C 7x6o0D b5uo0C 7k800D b5uo0C 7k800D b5uo0C 7k800D b5uo0C 7x6o0D asw00C 7x6o0D",
     "asw00C 7x6o0D b5uo0C 7k800D 1vbzw0B qnew0C bdw9njC"],
    "<+09>-9"⟩,
  ⟨["Asia/Colombo"],
    "19164/LMT 19172/MMT 19800/+0530 21600/+06 23400/+0630",
    ["-1ayyhgcB dkh6nsC isle6kD cajy0E 1mp2u0C qetjw0E 7x5a0D 4xvqq0C gktuxjC"],
    "<+0530>-5:30"⟩,
  ⟨["Asia/Damascus"],
    "8712/LMT 7200/EET 10800/EEST 10800/+03",
    ["-q3gk20B 5k6q0C 8n180B a31g0C 8n180B a31g0C 8n180B a31g0C 8zzw0B k4hk40C 7yyk0B awo40C",
     "7tek0B b0dg0C 7v980B awo40C 7tek0B alk40C 887w0B awo40C 7v980B ayis0C 7v980B awo40C",
     "7v980B awo40C 7v980B awo40C 7v980B ayis0C 7v980B awo40C 7v980B awo40C 7v980B awo40C",
     "7v980B ayis0C 7v980B awo40C 6bp80B cg840C 6bp80B 2eh1g0C 8zzw0B 9ts40C 8zzw0B pvk40C",
     "c33w0B 7cw40C cjrw0B 6zxg0C btuk0B 7rpg0C 9gnw0B 9d440C 9cyk0B 9et80C 9et80B 9rxg0C",
     "91uk0B 92040C 9et80B 9o840C 9et80B 9d440C 9et80B 9eys0C 9et80B 9b9g0C 9gnw0B 99es0C",
     "9iik0B 9d440C 9et80B 9eys0C 9et80B 9d440C 9et80B 9d440C 9et80B 9d440C 9et80B 9eys0C",
     "9et80B 9d440C 9et80B 9d440C 8y580B 9q2s0C b5rw0B 7x9g0C aunw0B 7ig40C b5rw0B 7x9g0C",
     "ast80B 7x9g0C ast80B 7x9g0C ast80B 7x9g0C ast80B 7x9g0C b5rw0B 7kas0C b5rw0B 7kas0C",
     "b5rw0B 7x9g0C ast80B 7x9g0C ast80B 7x9g0C ast80B 7x9g0C b5rw0B 7kas0C b5rw0B 7kas0C",
     "b5rw0D 7y4hbjD"],
    "<+03>-3"⟩,
  ⟨["Asia/Dhaka", "Asia/Dacca"],
    "21700/LMT 21200/HMT 23400/+0630 19800/+0530 21600/+06 25200/+07",
    ["-15r1q2sB r080dwC bmgywD 5lxg0C 4qknw0E u4ijy0F a1400E en10fjE"],
    "<+06>-6"⟩,
  ⟨["Asia/Dili"],
    "30140/LMT 28800/+08 32400/+09",
    ["-u9s3k0B fqct80C hufs00B cpz440C jhkf7jC"],
    "<+09>-9"⟩,
  ⟨["Asia/Dubai", "Asia/Muscat", "Indian/Mahe", "Indian/Reunion"],
    "13272/LMT 14400/+04",
    ["-q3gnkoB 1pm0ok7B"],
    "<+04>-4"⟩,
  ⟨["Asia/Dushanbe"],
    "16512/LMT 18000/+05 21600/+06 25200/+07",
    ["-nu18qoB 379yuoC qi27w0D 9et80C 9d440D 9et80C 9d440D 9et80C 9eys0D 9d6w0C 9d1c0D 9d1c0C",
     "9d1c0D 9d1c0C 9d1c0D 9d1c0C 9d1c0D 9d1c0C 9d1c0D 9d1c0C 9d1c0D 9q000C 9d1c0C 8c2s0B",
     "o73qnjB"],
    "<+05>-5"⟩,
  ⟨["Asia/Famagusta"],
    "8148/LMT 7200/EET 10800/EEST 10800/+03",
    ["-p4bqacB rvhy2cC 9cyk0B b42s0C 7nuk0B 8yas0C 8zzw0B 9q2s0C 9et80B 9b9g0C 9cyk0B 9q2s0C",
     "8zzw0B 9d440C 9cyk0B 9d440C 9cyk0B 9d440C 9cyk0B 9d440C 9px80B 9d440C 9cyk0B 9d440C",
     "9cyk0B 9d440C 9cyk0B 9d440C 9cyk0B 9d440C 9cyk0B 9d440C 9px80B 9d440C 9cyk0B 9d440C",
     "9cyk0B 9d440C 9cyk0B 9d440C 9cyk0B 9d440C 9cyk0B 9q2s0C 9cyk0B 9d440C 9cyk0B 9d440C",
     "at4c0B 7x6o0C b5uo0B 7k800C b5uo0B 7k800C b5uo0B 7x6o0C asw00B 7x6o0C asw00B 7x6o0C",
     "b5uo0B 7k800C b5uo0B 7k800C b5uo0B 7k800C b5uo0B 7x6o0C asw00B 7x6o0C asw00B 7x6o0C",
     "b5uo0B 7k800C b5uo0B 7k800C b5uo0B 7x6o0C asw00B 7x6o0C asw00B 7x6o0C asw00B 7x6o0C",
     "8h8w0D leog0B"],
    "EET-2EEST,M3.5.0/3,M10.5.0/4"⟩,
  ⟨["Asia/Gaza"],
    "8272/LMT 7200/EET 10800/EEST 7200/IST 10800/IDT",
    ["-1054x1sB kp9t1sC 69xc0B 2f1c0C 10q800B 7rmo0C b0ao0B 7thc0C b0ao0B 8jeo0C a8io0B 8jeo0C",
     "a8io0B 5hoig0C 7el80B awo40C 7v980B awqw0C 7tk40B b07w0C 7tk40B ayd80C 7tk40B ayd80C",
     "7tk40B ayd80C 7tk40B b07w0C 7tk40B ayd80C 7tk40B ayd80C 7ves0B awik0C 1sns0D 3p6is0E",
     "51ek0D 9q2s0E 6u7w0D 2kjk40E 25s00D 1weyo0E 5reo0D bvs00E 776k0D dbpg0E 5rbw0D bbhg0E",
     "7rjw0D asys0E 7k580D c8tg0E 6h980D ag040E 7x3w0D asys0E 8a2k0D asys0E 8a2k0D ap9g0E",
     "80t80D ap9g0E 7nuk0D b2840E 80t80D 66as0B 4vxc0C 8n400B a2yo0C 8n400B a2yo0C 8n400B",
     "asw00C 9cyk0B 9q2s0C 9cyk0B 9d440C 9cyk0B 9d440C 9cyk0B 9d440C 9cyk0B 9d440C 8n400B",
     "a2yo0C 8ulg0B 97ek0C 8y580B 9ts40C 8hms0B a4qk0C 7x3w0B asys0C 8a5c0B ahs1oC 71micB",
     "bzk5oC 69uicB cg840C 902o0B 9q000C 9cyk0B 9d440C ast80B 7z440C ar1c0B 7z440C b5rw0B",
     "7kas0C b5rw0B 7kas0C b5rw0B 7vc00C aunw0B 7x9g0C asw00B 7x6o0C b4000B 7nxc0C b42s0B",
     "9d440C 9cyk0B 905g0C 9px80B 8n6s0C a2vw0B 7x9g0C ast80B 7x9g0C b5rw0B 7kas0C b5rw0B",
     "7kas0C b5rw0B 7x9g0C ast80B 7x9g0C ast80B 7x9g0C b5rw0B 7kas0C b5rw0B 7kas0C b5rw0B",
     "7kas0C b5rw0B 7x9g0C afuk0B 8a840C a2vw0B 8n6s0C 9cyk0B 9d440C 8zzw0B 9q2s0C 8a2k0B",
     "2itg0C cvw0B 7x9g0C 7k580B 25us0C 12t80B 7x9g0C 776k0B 25us0C 1frw0B 7x9g0C 6h980B",
     "2itg0C 1sqk0B 7x9g0C 64ak0B 25us0C 2vmk0B 7kas0C 5rbw0B 25us0C 38l80B 7kas0C 51ek0B",
     "2itg0C 3ljw0B 7x9g0C 4bh80B 25us0C 4bh80B 7x9g0C 3ljw0B 2itg0C 4ofw0B 7x9g0C 38l80B",
     "25us0C 5rbw0B 7kas0C 2vmk0B 25us0C 64ak0B 7kas0C 25p80B 2itg0C 6h980B 7x9g0C 1frw0B",
     "25us0C 776k0B 7x9g0C puk0B 2itg0C 7k580B 7x9g0C cvw0B 2itg0C 7x3w0B a31g0C 8zzw0B 9d440C",
     "9cyk0B 8n6s0C a2vw0B 8a840C afuk0B 7x9g0C ast80B 7x9g0C b5rw0B 7kas0C b5rw0B 7kas0C",
     "b5rw0B 7kas0C b5rw0B 7x9g0C ast80B 7x9g0C ast80B 7x9g0C b5rw0B 7kas0C b5rw0B 7kas0C",
     "ast80B 8a840C a2vw0B 8n6s0C 9px80B 905g0C 8zzw0B 9q2s0C 8n180B 25us0C cvw0B 7kas0C",
     "8a2k0B 25us0C puk0B 7kas0C 7k580B 2itg0C 12t80B 7x9g0C 6u7w0B 25us0C 1sqk0B 7x9g0C",
     "64ak0B 2itg0C 25p80B 7x9g0C 5rbw0B 2itg0C 2vmk0B 7kas0C 5ed80B 25us0C 3ljw0B 7kas0C",
     "4ofw0B 2itg0C 3yik0B 7x9g0C 3yik0B 25us0C 4ofw0B 7x9g0C 3ljw0B 25us0C 51ek0B 7x9g0C",
     "2vmk0B 2itg0C 5ed80B 7x9g0C 2inw0B 25us0C 6h980B 7kas0C 1sqk0B 2itg0C 6u7w0B 7kas0C",
     "1frw0B 2itg0C 776k0B 7x9g0C puk0B 25us0C"],
    "EET-2EEST,M3.4.4/50,M10.4.4/50"⟩,
  ⟨["Asia/Hebron"],
    "8423/LMT 7200/EET 10800/EEST 7200/IST 10800/IDT",
    ["-1054x5zB kp9t5zC 69xc0B 2f1c0C 10q800B 7rmo0C b0ao0B 7thc0C b0ao0B 8jeo0C a8io0B 8jeo0C",
     "a8io0B 5hoig0C 7el80B awo40C 7v980B awqw0C 7tk40B b07w0C 7tk40B ayd80C 7tk40B ayd80C",
     "7tk40B ayd80C 7tk40B b07w0C 7tk40B ayd80C 7tk40B ayd80C 7ves0B awik0C 1sns0D 3p6is0E",
     "51ek0D 9q2s0E 6u7w0D 2kjk40E 25s00D 1weyo0E 5reo0D bvs00E 776k0D dbpg0E 5rbw0D bbhg0E",
     "7rjw0D asys0E 7k580D c8tg0E 6h980D ag040E 7x3w0D asys0E 8a2k0D asys0E 8a2k0D ap9g0E",
     "80t80D ap9g0E 7nuk0D b2840E 80t80D 66as0B 4vxc0C 8n400B a2yo0C 8n400B a2yo0C 8n400B",
     "asw00C 9cyk0B 9q2s0C 9cyk0B 9d440C 9cyk0B 9d440C 9cyk0B 9d440C 9cyk0B 9d440C 8n400B",
     "a2yo0C 8ulg0B 97ek0C 8y580B 9ts40C 8hms0B a4qk0C 82nw0B anes0C 8a5c0B afxc0C 73h80B",
     "bzk5oC 69uicB 1hs40C 1lbw0B 9d440C 902o0B 9q000C 9cyk0B 9d440C ast80B 7z440C ar1c0B",
     "7z440C b5rw0B 7kas0C b5rw0B 7kas0C b5rw0B 7vc00C aunw0B 7x9g0C asw00B 7x6o0C b4000B",
     "7nxc0C b42s0B 9d440C 9cyk0B 905g0C 9px80B 8n6s0C a2vw0B 7x9g0C ast80B 7x9g0C b5rw0B",
     "7kas0C b5rw0B 7kas0C b5rw0B 7x9g0C ast80B 7x9g0C ast80B 7x9g0C b5rw0B 7kas0C b5rw0B",
     "7kas0C b5rw0B 7kas0C b5rw0B 7x9g0C afuk0B 8a840C a2vw0B 8n6s0C 9cyk0B 9d440C 8zzw0B",
     "9q2s0C 8a2k0B 2itg0C cvw0B 7x9g0C 7k580B 25us0C 12t80B 7x9g0C 776k0B 25us0C 1frw0B",
     "7x9g0C 6h980B 2itg0C 1sqk0B 7x9g0C 64ak0B 25us0C 2vmk0B 7kas0C 5rbw0B 25us0C 38l80B",
     "7kas0C 51ek0B 2itg0C 3ljw0B 7x9g0C 4bh80B 25us0C 4bh80B 7x9g0C 3ljw0B 2itg0C 4ofw0B",
     "7x9g0C 38l80B 25us0C 5rbw0B 7kas0C 2vmk0B 25us0C 64ak0B 7kas0C 25p80B 2itg0C 6h980B",
     "7x9g0C 1frw0B 25us0C 776k0B 7x9g0C puk0B 2itg0C 7k580B 7x9g0C cvw0B 2itg0C 7x3w0B a31g0C",
     "8zzw0B 9d440C 9cyk0B 8n6s0C a2vw0B 8a840C afuk0B 7x9g0C ast80B 7x9g0C b5rw0B 7kas0C",
     "b5rw0B 7kas0C b5rw0B 7kas0C b5rw0B 7x9g0C ast80B 7x9g0C ast80B 7x9g0C b5rw0B 7kas0C",
     "b5rw0B 7kas0C ast80B 8a840C a2vw0B 8n6s0C 9px80B 905g0C 8zzw0B 9q2s0C 8n180B 25us0C",
     "cvw0B 7kas0C 8a2k0B 25us0C puk0B 7kas0C 7k580B 2itg0C 12t80B 7x9g0C 6u7w0B 25us0C 1sqk0B",
     "7x9g0C 64ak0B 2itg0C 25p80B 7x9g0C 5rbw0B 2itg0C 2vmk0B 7kas0C 5ed80B 25us0C 3ljw0B",
     "7kas0C 4ofw0B 2itg0C 3yik0B 7x9g0C 3yik0B 25us0C 4ofw0B 7x9g0C 3ljw0B 25us0C 51ek0B",
     "7x9g0C 2vmk0B 2itg0C 5ed80B 7x9g0C 2inw0B 25us0C 6h980B 7kas0C 1sqk0B 2itg0C 6u7w0B",
     "7kas0C 1frw0B 2itg0C 776k0B 7x9g0C puk0B 25us0C"],
    "EET-2EEST,M3.4.4/50,M10.4.4/50"⟩,
  ⟨["Asia/Ho_Chi_Minh", "Asia/Saigon"],
    "25590/LMT 25590/PLMT 25200/+07 28800/+08 32400/+09",
    ["-x5692uB 2isio0C gj25iuD 15ct80E 8so00C tmtk0D 4azmo0C 2cm7w0D 8285c0C wo9b7jC"],
    "<+07>-7"⟩,
  ⟨["Asia/Hong_Kong", "Hongkong"],
    "27402/LMT 28800/HKT 32400/HKST 30600/HKWT 32400/JST",
    ["-y0i0s0B j44dk0C 5k000D 4d4y0E 2195i0B 7x3w0C bj320B 6uao0C bvs00B 7x6o0C 9d1c0B 7x6o0C",
     "asw00B 7x6o0C asw00B 7x6o0C asw00B 8a5c0C asw00B 7x6o0C ast80B 77c40C biqk0B 77c40C",
     "bvp80B 6udg0C bvp80B 77c40C biqk0B 77c40C biqk0B 77c40C biqk0B 77c40C bvp80B 6udg0C",
     "bvp80B 6udg0C bvp80B 77c40C biqk0B 77c40C biqk0B 8n6s0C 9cyk0B 9d440C 9cyk0B 9d440C",
     "9px80B 9d440C 9cyk0B 9d440C 9cyk0B 9d440C 9cyk0B 9d440C 9cyk0B 9d440C 9px80B 9d440C",
     "9cyk0B 3lpg0C f4d80B 9d440C 9cyk0B 9d440C 9cyk0B 1c9440C 8a2k0B"],
    "HKT-8"⟩,
  ⟨["Asia/Hovd"],
    "21996/LMT 21600/+06 25200/+07 28800/+08",
    ["-xmcoz0B 11sncb0C 2qk2k0D 9et80C 9eys0D 9cyk0C 9d440D 9cyk0C 9d440D 9cyk0C 9d440D 9cyk0C",
     "9d440D 9cyk0C 9d440D 9cyk0C 9d440D 9px80C 9d440D 9cyk0C 9d440D 9cyk0C 9d440D 9cyk0C",
     "9d440D 9cyk0C 9d440D 9cyk0C 9q2s0D 9cyk0C 9d440D 9cyk0C 9d440D 9cyk0C 1ckdo0D 7x3w0C",
     "9d440D 9cyk0C 9d440D 9cyk0C 9d440D 9cyk0C 9d440D 9cyk0C 9d440D 9px80C 4fio40D 9ct00C",
     "9d9o0D 9ct00C b4l8jjC"],
    "<+07>-7"⟩,
  ⟨["Asia/Irkutsk"],
    "25025/LMT 25025/IMT 25200/+07 28800/+08 32400/+09",
    ["-1ayylz5B kwq5c0C 5fh175D qi27w0E 9et80D 9d440E 9et80D 9d440E 9et80D 9eys0E 9d6w0D",
     "9d1c0E 9d1c0D 9d1c0E 9d1c0D 9d1c0E 9d1c0D 9d1c0E 9d1c0D 9d1c0E 9d1c0D 9d1c0E 9q000D",
     "9d1c0D 9d440C 5reo0D 3ljw0E 9d1c0D 9d1c0E 9d1c0D 9d1c0E 9d1c0D 9d1c0E 9d1c0D 9q000E",
     "asw00D 7x6o0E asw00D 7x6o0E asw00D 7x6o0E b5uo0D 7k800E b5uo0D 7k800E b5uo0D 7x6o0E",
     "asw00D 7x6o0E asw00D 7x6o0E b5uo0D 7k800E b5uo0D 7k800E b5uo0D 7k800E b5uo0D 7x6o0E",
     "asw00D 7x6o0E asw00D 7x6o0E b5uo0D 7k800E 1vbzw0D c4jlrjD"],
    "<+08>-8"⟩,
  ⟨["Asia/Jakarta"],
    "25632/LMT 25632/BMT 26400/+0720 27000/+0730 32400/+09 28800/+08 25200/WIB",
    ["-1hftyg0B tfikqoC 4lzxc0D 4wdzjcE 1tu960D 1cx860F 11jta0D 74uc20G"],
    "WIB-7"⟩,
  ⟨["Asia/Jayapura"],
    "33768/LMT 32400/+09 34200/+0930 32400/WIT",
    ["-jebm20B 66bqe0C a37vy0D"],
    "WIT-9"⟩,
  ⟨["Asia/Jerusalem", "Asia/Tel_Aviv", "Israel"],
    "8454/LMT 8440/JMT 7200/IST 10800/IDT 14400/IDDT",
    ["-1ayy96uB jtxuoeC bp5aigD 69xc0C 2f1c0D 10q800C 7rmo0D b0ao0C 7thc0D b0ao0C 8jeo0D",
     "a8io0C 8jeo0D a8io0C t9pc0E 571c0D 34yo0C 9b6o0D 9gqo0C 8jeo0D 7thc0C a6o00D bitc0C",
     "8a5c0D 9d1c0C 902o0D 7x6o0C e1k00D 4oio0C e1k00D 4oio0C dolc0D 64dc0C asw00D 7k800C",
     "8rfeg0D 51ek0C 9q2s0D 6u7w0C 2kjk40D 25s00C 1weyo0D 5reo0C bvs00D 776k0C dbpg0D 5rbw0C",
     "bbhg0D 7rjw0C asys0D 7k580C c8tg0D 6h980C ag040D 7x3w0C asys0D 8a2k0C asys0D 8a2k0C",
     "ap9g0D 80t80C ap9g0D 7nuk0C b2840D 80t80C 9zc40D 9iik0C 9kis0D 93p80C 9mdg0D 8qqk0C",
     "apf00D 7x3w0C biw40D 8zx40C 9io40D 8n180C 9kis0D 9vh80C 8ulg0D 9px80C 9mdg0D 8n180C",
     "9tuw0D 9tmk0C 8wg40D 9gnw0C 99es0D 8qqk0C 9zc40D 9tmk0C 8wg40D 9gnw0C 99es0D 8qqk0C",
     "acas0D 9gnw0C 99es0D 93p80C 9mdg0D"],
    "IST-2IDT,M3.4.4/26,M10.5.0"⟩,
  ⟨["Asia/Kabul"],
    "16608/LMT 14400/+04 16200/+0430",
    ["-15r1m5cB spc1pcC 1ck9lfjC"],
    "<+0430>-4:30"⟩,
  ⟨["Asia/Kamchatka"],
    "38076/LMT 39600/+11 43200/+12 46800/+13",
    ["-olrupoB 3z045oC qi27w0D 9et80C 9d440D 9et80C 9d440D 9et80C 9eys0D 9d6w0C 9d1c0D 9d1c0C",
     "9d1c0D 9d1c0C 9d1c0D 9d1c0C 9d1c0D 9d1c0C 9d1c0D 9d1c0C 9d1c0D 9q000C 9d1c0C 9d440B",
     "5reo0C 3ljw0D 9d1c0C 9d1c0D 9d1c0C 9d1c0D 9d1c0C 9d1c0D 9d1c0C 9q000D asw00C 7x6o0D",
     "asw00C 7x6o0D asw00C 7x6o0D b5uo0C 7k800D b5uo0C 7k800D b5uo0C 7x6o0D asw00C 7x6o0D",
     "asw00C 7x6o0D b5uo0C 7k800D b5uo0C 7k800D b5uo0C 7k800D b5uo0C 7x6o0D asw00C 7x6o0D",
     "asw00C 7x6o0C b5xg0B 7k800C dzvtzjC"],
    "<+12>-12"⟩,
  ⟨["Asia/Karachi"],
    "16092/LMT 19800/+0530 23400/+0630 18000/+05 18000/PKT 21600/PKST",
    ["-wvpb30B im3zt0C 1mn180B 33xpg0D a63o20E g72qo0F 9cyk0E 2y85g0F 7v980E 8hms0F aaak0E"],
    "PKT-5"⟩,
  ⟨["Asia/Kathmandu", "Asia/Katmandu"],
    "20476/LMT 19800/+0530 20700/+0545",
    ["-q3gt4sB yg2lusC r5y89jC"],
    "<+0545>-5:45"⟩,
  ⟨["Asia/Khandyga"],
    "32533/LMT 28800/+08 32400/+09 36000/+10 39600/+11",
    ["-q4cjrpB 5hl1jpC qi27w0D 9et80C 9d440D 9et80C 9d440D 9et80C 9eys0D 9d6w0C 9d1c0D 9d1c0C",
     "9d1c0D 9d1c0C 9d1c0D 9d1c0C 9d1c0D 9d1c0C 9d1c0D 9d1c0C 9d1c0D 9q000C 9d1c0C 9d440B",
     "5reo0C 3ljw0D 9d1c0C 9d1c0D 9d1c0C 9d1c0D 9d1c0C 9d1c0D 9d1c0C 9q000D asw00C 7x6o0D",
     "asw00C 7x6o0D asw00C 7x6o0D b5uo0C 7k800D b5uo0C 7k800D b5uo0C 7x6o0D asw00C 7x6o0D",
     "asw00C 3fx40D 4h6s0E b5uo0D 7k800E b5uo0D 7k800E b5uo0D 7k800E b5uo0D 7x6o0E asw00D",
     "7x6o0E asw00D 7x6o0E b5uo0D 7k800E 8ql00D 1mlho0C c4jojjC"],
    "<+09>-9"⟩,
  ⟨["Asia/Kolkata", "Asia/Calcutta"],
    "21208/LMT 21200/HMT 19270/MMT 19800/IST 23400/+0630",
    ["-1oaa314B 83glc8C isc6tmD innm9aE bmfw0D 5lxg0E 1mn180D"],
    "IST-5:30"⟩,
  ⟨["Asia/Krasnoyarsk"],
    "22286/LMT 21600/+06 25200/+07 28800/+08",
    ["-q37l72B 5gg8j2C qi27w0D 9et80C 9d440D 9et80C 9d440D 9et80C 9eys0D 9d6w0C 9d1c0D 9d1c0C",
     "9d1c0D 9d1c0C 9d1c0D 9d1c0C 9d1c0D 9d1c0C 9d1c0D 9d1c0C 9d1c0D 9q000C 9d1c0C 9d440B",
     "5reo0C 3ljw0D 9d1c0C 9d1c0D 9d1c0C 9d1c0D 9d1c0C 9d1c0D 9d1c0C 9q000D asw00C 7x6o0D",
     "asw00C 7x6o0D asw00C 7x6o0D b5uo0C 7k800D b5uo0C 7k800D b5uo0C 7x6o0D asw00C 7x6o0D",
     "asw00C 7x6o0D b5uo0C 7k800D b5uo0C 7k800D b5uo0C 7k800D b5uo0C 7x6o0D asw00C 7x6o0D",
     "asw00C 7x6o0D b5uo0C 7k800D 1vbzw0C c4jizjC"],
    "<+07>-7"⟩,
  ⟨["Asia/Kuching", "Asia/Brunei"],
    "26480/LMT 27000/+0730 28800/+08 30000/+0820 32400/+09",
    ["-mvof3kB 3khwxkC 1epvy0D 4ohqoC e5a9cD 4ohqoC e3flcD 4ohqoC e3flcD 4ohqoC e3flcD 4ohqoC",
     "e5a9cD 4ohqoC e3flcD 4ohqoC 3ajlcE 1v2qk0C 1c77lzjC"],
    "<+08>-8"⟩,
  ⟨["Asia/Macau", "Asia/Macao"],
    "27250/LMT 28800/CST 32400/+09 36000/+10 32400/CDT",
    ["-y0i2cyB jdvyoyC 6onw0D ac580C 8fs40D 7v980C 11luw0B awlc0E 7vc00B ac800E bko00B 7x6o0E",
     "9d1c0B 7vc00E asw00B 7x6o0E asw00B 7x6o0E auqo0B 88ao0E asw00B 7x6o0E asw00B 779c0E",
     "bitc0B 779c0E bvs00B 6uao0E bw1q0B 77c40E biqk0B 77c40E biqk0B 77c40E biqk0B 77c40E",
     "bvp80B 6udg0E bvp80B 6udg0E bvp80B 77c40E biqk0B 77c40E biqk0B 8n6s0E 9cvs0B 9d6w0E",
     "9cvs0B 9d6w0E 9px80B 9d440E 9cyk0B 9d440E 9cyk0B 9d440E 9cyk0B 9d440E 9cyk0B 9d440E",
     "9px80B 9d440E 9cyk0B 3lpg0E f4d80B 9d440E 9cyk0B 9d440E 9cyk0B 1c9440E 8a2k0B"],
    "CST-8"⟩,
  ⟨["Asia/Magadan"],
    "36192/LMT 36000/+10 39600/+11 43200/+12",
    ["-nu1nxcB 37a05cC qi27w0D 9et80C 9d440D 9et80C 9d440D 9et80C 9eys0D 9d6w0C 9d1c0D 9d1c0C",
     "9d1c0D 9d1c0C 9d1c0D 9d1c0C 9d1c0D 9d1c0C 9d1c0D 9d1c0C 9d1c0D 9q000C 9d1c0C 9d440B",
     "5reo0C 3ljw0D 9d1c0C 9d1c0D 9d1c0C 9d1c0D 9d1c0C 9d1c0D 9d1c0C 9q000D asw00C 7x6o0D",
     "asw00C 7x6o0D asw00C 7x6o0D b5uo0C 7k800D b5uo0C 7k800D b5uo0C 7x6o0D asw00C 7x6o0D",
     "asw00C 7x6o0D b5uo0C 7k800D b5uo0C 7k800D b5uo0C 7k800D b5uo0C 7x6o0D asw00C 7x6o0D",
     "asw00C 7x6o0D b5uo0C 7k800D 1vbzw0B s39k0C bcgkjjC"],
    "<+11>-11"⟩,
  ⟨["Asia/Makassar", "Asia/Ujung_Pandang"],
    "28656/LMT 28656/MMT 28800/+08 32400/+09 28800/WITA",
    ["-q3gzg0B 6p5hc0C 4u87w0D 1w02k0E"],
    "WITA-8"⟩,
  ⟨["Asia/Manila"],
    "-57368/LMT 29032/LMT 28800/PST 32400/PDT 32400/JST",
    ["-1t8ix2gB sjc9igC je0pc0D 3wnw0C 2kc5g0D 2zbw0E 1leo00D dzpc0C 4d3ms0D 2rx80C bwlpg0D",
     "95jw0C 6lv1g0D 3jp80C"],
    "PST-8"⟩,
  ⟨["Asia/Nicosia", "Europe/Nicosia"],
    "8008/LMT 7200/EET 10800/EEST",
    ["-p4bq6gB rvhxygC 9cyk0B b42s0C 7nuk0B 8yas0C 8zzw0B 9q2s0C 9et80B 9b9g0C 9cyk0B 9q2s0C",
     "8zzw0B 9d440C 9cyk0B 9d440C 9cyk0B 9d440C 9cyk0B 9d440C 9px80B 9d440C 9cyk0B 9d440C",
     "9cyk0B 9d440C 9cyk0B 9d440C 9cyk0B 9d440C 9cyk0B 9d440C 9px80B 9d440C 9cyk0B 9d440C",
     "9cyk0B 9d440C 9cyk0B 9d440C 9cyk0B 9d440C 9cyk0B 9q2s0C 9cyk0B 9d440C 9cyk0B 9d440C",
     "at4c0B"],
    "EET-2EEST,M3.5.0/3,M10.5.0/4"⟩,
  ⟨["Asia/Novokuznetsk"],
    "20928/LMT 21600/+06 25200/+07 28800/+08",
    ["-nu36tcB 37bu5cC qi27w0D 9et80C 9d440D 9et80C 9d440D 9et80C 9eys0D 9d6w0C 9d1c0D 9d1c0C",
     "9d1c0D 9d1c0C 9d1c0D 9d1c0C 9d1c0D 9d1c0C 9d1c0D 9d1c0C 9d1c0D 9q000C 9d1c0C 9d440B",
     "5reo0C 3ljw0D 9d1c0C 9d1c0D 9d1c0C 9d1c0D 9d1c0C 9d1c0D 9d1c0C 9q000D asw00C 7x6o0D",
     "asw00C 7x6o0D asw00C 7x6o0D b5uo0C 7k800D b5uo0C 7k800D b5uo0C 7x6o0D asw00C 7x6o0D",
     "asw00C 7x6o0D b5uo0C 7k800D b5uo0C 7k800D b5uo0C 7k800D b5uo0C 7x6o0D asw00C 7x6o0D",
     "asw00C 7x6o0C b5xg0B 7k800C dzvg3jC"],
    "<+07>-7"⟩,
  ⟨["Asia/Novosibirsk"],
    "19900/LMT 21600/+06 25200/+07 28800/+08",
    ["-q4do0sB 5hmbcsC qi27w0D 9et80C 9d440D 9et80C 9d440D 9et80C 9eys0D 9d6w0C 9d1c0D 9d1c0C",
     "9d1c0D 9d1c0C 9d1c0D 9d1c0C 9d1c0D 9d1c0C 9d1c0D 9d1c0C 9d1c0D 9q000C 9d1c0C 9d440B",
     "5reo0C 3ljw0D 9d1c0C 9d1c0D 2vh00C 6hn40B 9d1c0C 9d1c0B 9d1c0C 9d1c0B 9q000C asw00B",
     "7x6o0C asw00B 7x6o0C asw00B 7x6o0C b5uo0B 7k800C b5uo0B 7k800C b5uo0B 7x6o0C asw00B",
     "7x6o0C asw00B 7x6o0C b5uo0B 7k800C b5uo0B 7k800C b5uo0B 7k800C b5uo0B 7x6o0C asw00B",
     "7x6o0C asw00B 7x6o0C b5uo0B 7k800C 1vbzw0B wrpg0C b7rqrjC"],
    "<+07>-7"⟩,
  ⟨["Asia/Omsk"],
    "17610/LMT 18000/+05 21600/+06 25200/+07",
    ["-q5xmx6B 5j6d16C qi27w0D 9et80C 9d440D 9et80C 9d440D 9et80C 9eys0D 9d6w0C 9d1c0D 9d1c0C",
     "9d1c0D 9d1c0C 9d1c0D 9d1c0C 9d1c0D 9d1c0C 9d1c0D 9d1c0C 9d1c0D 9q000C 9d1c0C 9d440B",
     "5reo0C 3ljw0D 9d1c0C 9d1c0D 9d1c0C 9d1c0D 9d1c0C 9d1c0D 9d1c0C 9q000D asw00C 7x6o0D",
     "asw00C 7x6o0D asw00C 7x6o0D b5uo0C 7k800D b5uo0C 7k800D b5uo0C 7x6o0D asw00C 7x6o0D",
     "asw00C 7x6o0D b5uo0C 7k800D b5uo0C 7k800D b5uo0C 7k800D b5uo0C 7x6o0D asw00C 7x6o0D",
     "asw00C 7x6o0D b5uo0C 7k800D 1vbzw0C c4jg7jC"],
    "<+06>-6"⟩,
  ⟨["Asia/Oral"],
    "12324/LMT 10800/+03 18000/+05 21600/+06 14400/+04",
    ["-nu15icB 37a16cC qi2540D 9et80D 9d1c0D 9ew00C 9d440D 9et80C 9eys0D 9d6w0C 9d1c0D 9d1c0C",
     "9d1c0D 9d1c0C 9d1c0D 9d1c0C 9d1c0D 9d1c0C 9d1c0C 9d440E 9d1c0C 9q000E 9d1c0C 9d1c0E",
     "5reo0C 3ljw0C 9d440E 9d1c0C 9d1c0E 9d1c0C 9d1c0E 9d1c0C 9d1c0E 9q000C asw00E 7x6o0C",
     "asw00E 7x6o0C asw00E 7x6o0C b5uo0E 7k800C b5uo0E 7k800C b5uo0E 7x6o0C asw00E 7x6o0C",
     "asw00E 7x6o0C b5uo0C hc4x7jC"],
    "<+05>-5"⟩,
  ⟨["Asia/Pontianak"],
    "26240/LMT 26240/PMT 27000/+0730 32400/+09 28800/+08 28800/WITA 25200/WIB",
    ["-w6piwwB cse2o0C 4tnu2wD 1wkei0C 1cx860E 11jta0C 74uc20F cixam0G"],
    "WIB-7"⟩,
  ⟨["Asia/Pyongyang"],
    "30180/LMT 30600/KST 32400/JST 32400/KST",
    ["-w895ycB 1yh10cC hk5da0D 10ipmo0B 1f4qo0D"],
    "KST-9"⟩,
  ⟨["Asia/Qatar", "Asia/Bahrain"],
    "12368/LMT 14400/+04 10800/+03",
    ["-q3gmvkB rctnrkC y9703jC"],
    "<+03>-3"⟩,
  ⟨["Asia/Qostanay"],
    "15268/LMT 14400/+04 18000/+05 21600/+06",
    ["-nu17s4B 37a0o4C qi27w0D 9et80D 9d1c0D 9ew00C 9d440D 9et80C 9eys0D 9d6w0C 9d1c0D 9d1c0C",
     "9d1c0D 9d1c0C 9d1c0D 9d1c0C 9d1c0D 9d1c0C 9d1c0D 9d1c0C 9d1c0D 9q000C 9d1c0C 9d440B",
     "5reo0C 3ljw0D 9d1c0C 9d1c0D 9d1c0C 9d1c0D 9d1c0C 9d1c0D 9d1c0C 9q000D asw00C 7x6o0D",
     "asw00C 7x6o0D asw00C 7x6o0D b5uo0C 7k800D b5uo0C 7k800D b5uo0C 7x6o0D asw00C 7x6o0D",
     "asw00C 7x6o0D b5uo0D a37p00C 78xazjC"],
    "<+05>-5"⟩,
  ⟨["Asia/Qyzylorda"],
    "15712/LMT 14400/+04 18000/+05 21600/+06",
    ["-nu184gB 37a10gC qi27w0D 9et80D 9d1c0D 9ew00C 9d440D 9et80C 9eys0D 9d6w0C 9d1c0D 9d1c0C",
     "9d1c0D 9d1c0C 9d1c0D 9d1c0C 9d1c0D 9d1c0C 9d1c0D 9d1c0C 9d1c0D 9q000C 9d1c0C 9d440C",
     "5rbw0D 3ljw0D 9d440C 9d1c0D 9d1c0C 9d1c0D 9d1c0C 9d1c0D 9d1c0C 9q000D asw00C 7x6o0D",
     "asw00C 7x6o0D asw00C 7x6o0D b5uo0C 7k800D b5uo0C 7k800D b5uo0C 7x6o0D asw00C 7x6o0D",
     "asw00C 7x6o0D b5uo0D 7dmqc0C 9yi9njC"],
    "<+05>-5"⟩,
  ⟨["Asia/Riyadh", "Antarctica/Syowa", "Asia/Aden", "Asia/Kuwait"],
    "11212/LMT 10800/+03",
    ["-bwgbbgB 1bf0cazB"],
    "<+03>-3"⟩,
  ⟨["Asia/Sakhalin"],
    "34248/LMT 32400/+09 39600/+11 43200/+12 36000/+10",
    ["-xl87rcB kvnarcC ikvh40D 9et80C 9d440D 9et80C 9d440D 9et80C 9eys0D 9d6w0C 9d1c0D 9d1c0C",
     "9d1c0D 9d1c0C 9d1c0D 9d1c0C 9d1c0D 9d1c0C 9d1c0D 9d1c0C 9d1c0D 9q000C 9d1c0C 9d440E",
     "5reo0C 3ljw0D 9d1c0C 9d1c0D 9d1c0C 9d1c0D 9d1c0C 9d1c0D 9d1c0C 9q000D asw00C 7x6o0C",
     "asys0E 7x6o0C asw00E 7x6o0C b5uo0E 7k800C b5uo0E 7k800C b5uo0E 7x6o0C asw00E 7x6o0C",
     "asw00E 7x6o0C b5uo0E 7k800C b5uo0E 7k800C b5uo0E 7k800C b5uo0E 7x6o0C asw00E 7x6o0C",
     "asw00E 7x6o0C b5uo0E 7k800C 1vbzw0E qnc40C bdwf7jC"],
    "<+11>-11"⟩,
  ⟨["Asia/Samarkand"],
    "16073/LMT 14400/+04 18000/+05 21600/+06",
    ["-nu18ehB 37a1ahC qi27w0D 9et80D 9d1c0D 9ew00C 9d440D 9et80C 9eys0D 9d6w0C 9d1c0D 9d1c0C",
     "9d1c0D 9d1c0C 9d1c0D 9d1c0C 9d1c0D 9d1c0C 9d1c0D 9d1c0C 9d1c0D 9q000C 9d1c0D 9d1c0C",
     "o62pbjC"],
    "<+05>-5"⟩,
  ⟨["Asia/Seoul", "ROK"],
    "30472/LMT 30600/KST 32400/JST 32400/KST 36000/KDT 34200/KDT",
    ["-w8966gB 1yh18gC hkx5a0D 1faao0E 5cik0D ae5g0E 8a2k0D ae5g0E 8bx80D c8tg0E 6h980D",
     "1bj6s0B l3aq0F 6j3w0B d2g40F 6u7w0B b5xg0F 776k0B biw40F 776k0B biw40F 776k0B biw40F",
     "776k0B grs40D dfqxi0E 7x6o0D asw00E 7x6o0D"],
    "KST-9"⟩,
  ⟨["Asia/Shanghai", "Asia/Chongqing", "Asia/Chungking", "Asia/Harbin", "PRC"],
    "29143/LMT 28800/CST 32400/CDT",
    ["-100eztjB 9jeyxjC 8sl80B asbpg0C 6w2k0B 7ves0C bxjw0B 4mqs0C 1vduk0B d4as0C 75bw0B",
     "a31g0C aaak0B 9d440C 7v980B awo40C 1dx80B j9xpo0C 6u7w0B asys0C 7x3w0B b5xg0C 7k580B",
     "b5xg0C 7x3w0B asys0C 7x3w0B asys0C 7x3w0B"],
    "CST-8"⟩,
  ⟨["Asia/Singapore", "Asia/Kuala_Lumpur", "Singapore"],
    "24925/LMT 24925/SMT 25200/+07 26400/+0720 27000/+0730 32400/+09 28800/+08",
    ["-100ewkdB 2ax6o0C eeb94dD 1kbr2oD 2yhc00E 8n3jcF 1v2p60E iy3ms0G t93z7jG"],
    "<+08>-8"⟩,
  ⟨["Asia/Srednekolymsk"],
    "36892/LMT 36000/+10 39600/+11 43200/+12",
    ["-nu1ogsB 37a0osC qi27w0D 9et80C 9d440D 9et80C 9d440D 9et80C 9eys0D 9d6w0C 9d1c0D 9d1c0C",
     "9d1c0D 9d1c0C 9d1c0D 9d1c0C 9d1c0D 9d1c0C 9d1c0D 9d1c0C 9d1c0D 9q000C 9d1c0C 9d440B",
     "5reo0C 3ljw0D 9d1c0C 9d1c0D 9d1c0C 9d1c0D 9d1c0C 9d1c0D 9d1c0C 9q000D asw00C 7x6o0D",
     "asw00C 7x6o0D asw00C 7x6o0D b5uo0C 7k800D b5uo0C 7k800D b5uo0C 7x6o0D asw00C 7x6o0D",
     "asw00C 7x6o0D b5uo0C 7k800D b5uo0C 7k800D b5uo0C 7k800D b5uo0C 7x6o0D asw00C 7x6o0D",
     "asw00C 7x6o0D b5uo0C 7k800D 1vbzw0C c4ju3jC"],
    "<+11>-11"⟩,
  ⟨["Asia/Taipei", "ROC"],
    "29160/LMT 28800/CST 32400/JST 32400/CDT",
    ["-12mch60B lsd1m0C 45slc0B c51c0D 75bw0B a31g0D aaak0B 9d440D 7v980B awo40D 7v980B awo40D",
     "7v980B awo40D 7v980B 7tk40D clmk0B 7rpg0D b07w0B 7rpg0D b07w0B 7rpg0D 9et80B 9eys0D",
     "9et80B 9d440D 9et80B 9d440D 9et80B 9d440D 9et80B cjxg0D 69uk0B ci2s0D 69uk0B 6its40D",
     "9et80B 9d440D 9et80B 1yf9g0D 4qak0B"],
    "CST-8"⟩,
  ⟨["Asia/Tashkent"],
    "16631/LMT 18000/+05 21600/+06 25200/+07",
    ["-nu18tzB 379yxzC qi27w0D 9et80C 9d440D 9et80C 9d440D 9et80C 9eys0D 9d6w0C 9d1c0D 9d1c0C",
     "9d1c0D 9d1c0C 9d1c0D 9d1c0C 9d1c0D 9d1c0C 9d1c0D 9d1c0C 9d1c0D 9q000C 9d1c0C 9d440B",
     "o62pbjB"],
    "<+05>-5"⟩,
  ⟨["Asia/Tbilisi"],
    "10751/LMT 10751/TBMT 10800/+03 14400/+04 18000/+05",
    ["-1ayyaynB n4x6o0C h4tjynD ckinw0E 9et80D 9d440E 9et80D 9d440E 9et80D 9eys0E 9d6w0D",
     "9d1c0E 9d1c0D 9d1c0E 9d1c0D 9d1c0E 9d1c0D 9d1c0E 9d1c0D 9d1c0E 9d1c0D 9d1c0E 9q000D",
     "9d1c0D 9d440C 9cvs0D 9cyk0C 9d440D 9cyk0C 9d440D 9cyk0D 9d1c0E 9cyk0D 9q2s0E ipzw0E",
     "asw00D 7x9g0E ast80D 7x9g0E b5rw0D 7kas0E b5rw0D 7kas0E b5rw0D 7x9g0E ast80D 7x9g0E",
     "ast80D 7x9g0E 4ofw0D 6hn40C 7k800D h4kmfjD"],
    "<+04>-4"⟩,
  ⟨["Asia/Tehran", "Iran"],
    "12344/LMT 12344/TMT 12600/+0330 16200/+0430 14400/+04 18000/+05",
    ["-s6m6uwB a5dpc0C lsvh0wD ayg00E 7z2q0F 6uao0E 51hc0C a4uq0D 5wvw0C 9gtg0D 9kd80C 5ja5g0D",
     "7avw0C 9d440D 9gnw0C 9b9g0D 9gnw0C 9b9g0D 9gnw0C 9b9g0D 9gnw0C 9b9g0D 9gnw0C 9d440D",
     "9gnw0C 9b9g0D 9gnw0C 9b9g0D 9gnw0C 9b9g0D 9gnw0C 9d440D 9gnw0C 9b9g0D 9gnw0C 9b9g0D",
     "9gnw0C 9b9g0D 9gnw0C 9d440D 9gnw0C 1av440D 9gnw0C 9d440D 9gnw0C 9b9g0D 9gnw0C 9b9g0D",
     "9gnw0C 9b9g0D 9gnw0C 9d440D 9gnw0C 9b9g0D 9gnw0C 9b9g0D 9gnw0C 9b9g0D 9gnw0C 9d440D",
     "9gnw0C 9b9g0D 9gnw0C 9b9g0D 9gnw0C 9b9g0D 9gnw0C 9d440D 9gnw0C 9b9g0D 9gnw0C 7zz9hjC"],
    "<+0330>-3:30"⟩,
  ⟨["Asia/Thimphu", "Asia/Thimbu"],
    "21516/LMT 19800/+0530 21600/+06",
    ["-bojcloB kxymnoC q94qxjC"],
    "<+06>-6"⟩,
  ⟨["Asia/Tokyo", "Japan"],
    "33539/LMT 32400/JST 36000/JDT",
    ["-16snno0B vhjeo0C 6uao0B afxc0C 8a5c0B c8qo0C 6hc00B c8qo0C 6hc00B"],
    "JST-9"⟩,
  ⟨["Asia/Tomsk"],
    "20391/LMT 21600/+06 25200/+07 28800/+08",
    ["-q3zbqfB 5h7z2fC qi27w0D 9et80C 9d440D 9et80C 9d440D 9et80C 9eys0D 9d6w0C 9d1c0D 9d1c0C",
     "9d1c0D 9d1c0C 9d1c0D 9d1c0C 9d1c0D 9d1c0C 9d1c0D 9d1c0C 9d1c0D 9q000C 9d1c0C 9d440B",
     "5reo0C 3ljw0D 9d1c0C 9d1c0D 9d1c0C 9d1c0D 9d1c0C 9d1c0D 9d1c0C 9q000D asw00C 7x6o0D",
     "asw00C 7x6o0D asw00C 7x6o0D b5uo0C 7k800D b5uo0C 7k800D b5uo0C 7x6o0D 1leo0C 97k40B",
     "7x6o0C asw00B 7x6o0C b5uo0B 7k800C b5uo0B 7k800C b5uo0B 7k800C b5uo0B 7x6o0C asw00B",
     "7x6o0C asw00B 7x6o0C b5uo0B 7k800C 1vbzw0B tw040C bang3jC"],
    "<+07>-7"⟩,
  ⟨["Asia/Ulaanbaatar", "Asia/Choibalsan", "Asia/Ulan_Bator"],
    "25652/LMT 25200/+07 28800/+08 32400/+09",
    ["-xmcrskB 11sncckC 2qk2k0D 9et80C 9eys0D 9cyk0C 9d440D 9cyk0C 9d440D 9cyk0C 9d440D 9cyk0C",
     "9d440D 9cyk0C 9d440D 9cyk0C 9d440D 9px80C 9d440D 9cyk0C 9d440D 9cyk0C 9d440D 9cyk0C",
     "9d440D 9cyk0C 9d440D 9cyk0C 9q2s0D 9cyk0C 9d440D 9cyk0C 9d440D 9cyk0C 1ckdo0D 7x3w0C",
     "9d440D 9cyk0C 9d440D 9cyk0C 9d440D 9cyk0C 9d440D 9cyk0C 9d440D 9px80C 4fio40D 9ct00C",
     "9d9o0D 9ct00C b4lbbjC"],
    "<+08>-8"⟩,
  ⟨["Asia/Urumqi", "Asia/Kashgar"],
    "21020/LMT 21600/+06",
    ["-lx5pjwB 1lfpqjfB"],
    "<+06>-6"⟩,
  ⟨["Asia/Ust-Nera"],
    "34374/LMT 28800/+08 32400/+09 43200/+12 39600/+11 36000/+10",
    ["-q4cl6uB 5hl2yuC qi27w0D 9eno0E 9d440D 9et80E 9d440D 9et80E 9eys0D 9d6w0E 9d1c0D 9d1c0E",
     "9d1c0D 9d1c0E 9d1c0D 9d1c0E 9d1c0D 9d1c0E 9d1c0D 9d1c0E 9d1c0D 9q000E 9d1c0E 9d440F",
     "5reo0E 3ljw0D 9d1c0E 9d1c0D 9d1c0E 9d1c0D 9d1c0E 9d1c0D 9d1c0E 9q000D asw00E 7x6o0D",
     "asw00E 7x6o0D asw00E 7x6o0D b5uo0E 7k800D b5uo0E 7k800D b5uo0E 7x6o0D asw00E 7x6o0D",
     "asw00E 7x6o0D b5uo0E 7k800D b5uo0E 7k800D b5uo0E 7k800D b5uo0E 7x6o0D asw00E 7x6o0D",
     "asw00E 7x6o0D b5uo0E 7k800D 8ql00E 1mlho0F c4jrbjF"],
    "<+10>-10"⟩,
  ⟨["Asia/Vladivostok"],
    "31651/LMT 32400/+09 36000/+10 39600/+11",
    ["-oligf7B 3yqvf7C qi27w0D 9et80C 9d440D 9et80C 9d440D 9et80C 9eys0D 9d6w0C 9d1c0D 9d1c0C",
     "9d1c0D 9d1c0C 9d1c0D 9d1c0C 9d1c0D 9d1c0C 9d1c0D 9d1c0C 9d1c0D 9q000C 9d1c0C 9d440B",
     "5reo0C 3ljw0D 9d1c0C 9d1c0D 9d1c0C 9d1c0D 9d1c0C 9d1c0D 9d1c0C 9q000D asw00C 7x6o0D",
     "asw00C 7x6o0D asw00C 7x6o0D b5uo0C 7k800D b5uo0C 7k800D b5uo0C 7x6o0D asw00C 7x6o0D",
     "asw00C 7x6o0D b5uo0C 7k800D b5uo0C 7k800D b5uo0C 7k800D b5uo0C 7x6o0D asw00C 7x6o0D",
     "asw00C 7x6o0D b5uo0C 7k800D 1vbzw0C c4jrbjC"],
    "<+10>-10"⟩,
  ⟨["Asia/Yakutsk"],
    "31138/LMT 28800/+08 32400/+09 36000/+10",
    ["-q4cioyB 5hl0gyC qi27w0D 9et80C 9d440D 9et80C 9d440D 9et80C 9eys0D 9d6w0C 9d1c0D 9d1c0C",
     "9d1c0D 9d1c0C 9d1c0D 9d1c0C 9d1c0D 9d1c0C 9d1c0D 9d1c0C 9d1c0D 9q000C 9d1c0C 9d440B",
     "5reo0C 3ljw0D 9d1c0C 9d1c0D 9d1c0C 9d1c0D 9d1c0C 9d1c0D 9d1c0C 9q000D asw00C 7x6o0D",
     "asw00C 7x6o0D asw00C 7x6o0D b5uo0C 7k800D b5uo0C 7k800D b5uo0C 7x6o0D asw00C 7x6o0D",
     "asw00C 7x6o0D b5uo0C 7k800D b5uo0C 7k800D b5uo0C 7k800D b5uo0C 7x6o0D asw00C 7x6o0D",
     "asw00C 7x6o0D b5uo0C 7k800D 1vbzw0C c4jojjC"],
    "<+09>-9"⟩,
  ⟨["Asia/Yangon", "Asia/Rangoon", "Indian/Cocos"],
    "23087/LMT 23087/RMT 23400/+0630 32400/+09",
    ["-1ayykhbB kvhpc0C bnjp3bD 1kh520C 1ce01zjC"],
    "<+0630>-6:30"⟩,
  ⟨["Asia/Yekaterinburg"],
    "14553/LMT 13505/PMT 14400/+04 18000/+05 21600/+06",
    ["-rx5hw9B 1kybx4C 5pfyv5D qi27w0E 9et80D 9d440E 9et80D 9d440E 9et80D 9eys0E 9d6w0D 9d1c0E",
     "9d1c0D 9d1c0E 9d1c0D 9d1c0E 9d1c0D 9d1c0E 9d1c0D 9d1c0E 9d1c0D 9d1c0E 9q000D 9d1c0D",
     "9d440C 5reo0D 3ljw0E 9d1c0D 9d1c0E 9d1c0D 9d1c0E 9d1c0D 9d1c0E 9d1c0D 9q000E asw00D",
     "7x6o0E asw00D 7x6o0E asw00D 7x6o0E b5uo0D 7k800E b5uo0D 7k800E b5uo0D 7x6o0E asw00D",
     "7x6o0E asw00D 7x6o0E b5uo0D 7k800E b5uo0D 7k800E b5uo0D 7k800E b5uo0D 7x6o0E asw00D",
     "7x6o0E asw00D 7x6o0E b5uo0D 7k800E 1vbzw0D c4jdfjD"],
    "<+05>-5"⟩,
  ⟨["Asia/Yerevan"],
    "10680/LMT 10800/+03 14400/+04 18000/+05",
    ["-nu148oB h4tjwoC ckinw0D 9et80C 9d440D 9et80C 9d440D 9et80C 9eys0D 9d6w0C 9d1c0D 9d1c0C",
     "9d1c0D 9d1c0C 9d1c0D 9d1c0C 9d1c0D 9d1c0C 9d1c0D 9d1c0C 9d1c0D 9q000C 9d1c0C 9d440B",
     "9d1c0C 9d1c0B 9d1c0C 9d1c0B 9d1c0C 9d1c0B 9d1c0C 9d1c0C sfzw0D asw00C 7x6o0D asw00C",
     "7x6o0D b5uo0C 7k800D b5uo0C 7k800D b5uo0C 7x6o0D asw00C 7x6o0D asw00C 7x6o0D b5uo0C",
     "7k800D b5uo0C 7k800D b5uo0C 7k800D b5uo0C 7x6o0D asw00C 7x6o0D asw00C 7x6o0D b5uo0C",
     "7k800D b5uo0C dopfvjC"],
    "<+04>-4"⟩]

/-- The regions filed under Atlantic. -/
def atlantic : List ZoneRecord := [
  ⟨["Atlantic/Azores"],
    "-6160/LMT -6872/HMT -7200/-02 -3600/-01 0/+00 0/WET 3600/WEST",
    ["-18vsdwwB em124wC 2bufw0D 6zxg0C 66800D bq580C 71s40D bq580C 71s40D bq580C 73ms0D bq580C",
     "71s40D bq580C 1b2g00D 8so00C st1c0D 8n400C 9q000D 902o0C a2yo0D 902o0C a2yo0D 8n400C",
     "st1c0D 8n400C 9d1c0D 9d1c0C sg2o0D 9d1c0C 902o0D 9q000C a2yo0D 8n400C 9d1c0D 9d1c0C",
     "902o0D 9q000C a2yo0D b5uo0C 51hc0D bmio0C 99c00D 9ew00C 88ao0D 25p80E 5reo0D 3lpg0C",
     "779c0D 1sqk0E 6uao0D 38qs0C 6uao0D 25p80E 6hc00D 38qs0C 6uao0D 25p80E 6hc00D 38qs0C",
     "8a5c0D 9d1c0C 9d9o0D 9d1c0C 9d1c0D 9d1c0C 9d1c0D 9d1c0C 9d1c0D 9d1c0C 9d1c0D 9q000C",
     "9d1c0D 9d1c0C 9d1c0D 9d1c0C 9d1c0D 9d1c0C 9d1c0D 9d1c0C 9d1c0D 9q000C 9d1c0D 9d1c0C",
     "9d1c0D 9d1c0C 9d1c0D 9d1c0C 9d1c0D 9d1c0C 9d1c0D 9d1c0C 9d1c0D 9q000C 9d1c0D 9d1c0C",
     "9d1c0D 9d1c0C 9d1c0D 9d1c0C 9d1c0D 9d1c0D 82xuc0E 9d1c0D 9d1c0E 9d1c0D 9d1c0E 9q000D",
     "9d1c0E 9d1c0D 9d1c0E 9d1c0D 9d1c0E 9d1c0D 9d1c0E 9d1c0D 9d1c0E 9d1c0D 9d1c0E 9q000D",
     "9d1c0E 9d1c0D 9d1c0E 9d1c0D 4olg0F 4ofw0G 46000E 571c0D 9d1c0E 9d1c0D 9d1c0E 9d1c0D",
     "9q000E asw00D 7x6o0E asw00D 7x6o0E asw00D 7x6o0E b5uo0D 7k800E b5uo0D 7k800E b5uo0D",
     "7x6o0E asw00D 7x6o0E asw00D 7x6o0E b5uo0D 7k800E b5uo0D 7k800E b5uo0D 7k800E b5uo0D",
     "7x6o0E asw00D 7x6o0E asw00D 7x6o0E b5uo0D 7k800E b5uo0D 7k800E b5uo0D 7x6o0E asw00D",
     "7x6o0E asw00D 7x6o0E asw00D 7x6o0E b5uo0D 7k800E b5uo0D 7k800E b5uo0D 7x6o0E asw00D",
     "7x6o0E asw00D 7x6o0E b5uo0D 7k800E b5uo0D 7k800E b5uo0D 7x6o0E asw00D 7x6o0E asw00D",
     "7x6o0E asw00D 7x6o0E b5uo0D 7k800E b5uo0D 7k800E b5uo0D 7x6o0E asw00D 7x6o0E asw00D",
     "7x6o0E b5uo0D 7k800E b5uo0D 7k800E b5uo0D 7k800E b5uo0D 7x6o0E asw00D 7x6o0E asw00D",
     "4ffjjD"],
    "<-01>1<+00>,M3.5.0/0,M10.5.0/1"⟩,
  ⟨["Atlantic/Bermuda"],
    "-15558/LMT -15558/BMT -11958/BST -14400/AST -10800/ADT",
    ["-15r0xbuB e851c0C 95jw0B a16s0C 7yyk0B 5w74c0D 69z5ruE eefw0D 7x9g0E biqk0D 6udg0E",
     "c8nw0D 6hes0E c8nw0D st440E 64ak0D cyqs0E 5ed80D dbpg0E 5ed80D doo40E 51ek0D doo40E",
     "51ek0D doo40E 5ed80D 1xuw40E 7x3w0D 94r9g0E 9cyk0D 9d440E 9cyk0D 9d440E 9px80D 905g0E",
     "9px80D 9d440E 9cyk0D 9d440E 9cyk0D 9d440E 9cyk0D 9d440E 9cyk0D 9d440E 9px80D 905g0E",
     "9px80D 9d440E 9cyk0D 9d440E 9cyk0D 9d440E 9cyk0D 8a840E afuk0D 8a840E ast80D 7x9g0E",
     "ast80D 7x9g0E ast80D 8a840E afuk0D 8a840E afuk0D 8a840E ast80D 7x9g0E ast80D 7x9g0E",
     "ast80D 8a840E afuk0D 8a840E afuk0D 8a840E afuk0D 8a840E ast80D 7x9g0E ast80D 7x9g0E",
     "ast80D 8a840E afuk0D 8a840E afuk0D 8a840E ast80D 7x9g0E ast80D 7x9g0E ast80D 6udg0E"],
    "AST4ADT,M3.2.0,M11.1.0"⟩,
  ⟨["Atlantic/Canary"],
    "-3696/LMT -3600/-01 0/WET 3600/WEST",
    ["-oytbtcB ctvupcC hhq7s0D 905g0C 9d1c0D 9d1c0C 9d1c0D 9d1c0C 9d1c0D 9d1c0C 9d1c0D 9q000C",
     "9d1c0D 9d1c0C 9d1c0D 9d1c0C 9d1c0D 9d1c0C 9d1c0D 9d1c0C 9d1c0D 9d1c0C 9d1c0D 9q000C",
     "9d1c0D 9d1c0C 9d1c0D 9d1c0C 9d1c0D 9d1c0C 9d1c0D 9d1c0C 9d1c0D 9d1c0C 9q000D"],
    "WET0WEST,M3.5.0/1,M10.5.0"⟩,
  ⟨["Atlantic/Cape_Verde"],
    "-5644/LMT -7200/-02 -3600/-01",
    ["-u9rbs0B g06lc0C 1mn180B fpqwc0C wfqtvjC"],
    "<-01>1"⟩,
  ⟨["Atlantic/Faroe", "Atlantic/Faeroe"],
    "-1624/LMT 0/WET 3600/WEST",
    ["-wcehewB 127keuwC 9d1c0B 9d1c0C 9d1c0B 9d1c0C 9d1c0B 9d1c0C 9q000B 9d1c0C 9d1c0B 9d1c0C",
     "9d1c0B 9d1c0C 9d1c0B 9d1c0C 9d1c0B 9d1c0C 9d1c0B 9d1c0C 9q000B 9d1c0C 9d1c0B 9d1c0C",
     "9d1c0B 9d1c0C 9d1c0B 9d1c0C 9d1c0B 9d1c0C 9d1c0B 9q000C"],
    "WET0WEST,M3.5.0/1,M10.5.0"⟩,
  ⟨["Atlantic/Madeira"],
    "-4056/LMT -4056/FMT -3600/-01 0/+00 3600/+01 0/WET 3600/WEST",
    ["-18vsfjcB em10zcC 2bufw0D 6zxg0C 66800D bq580C 71s40D bq580C 71s40D bq580C 73ms0D bq580C",
     "71s40D bq580C 1b2g00D 8so00C st1c0D 8n400C 9q000D 902o0C a2yo0D 902o0C a2yo0D 8n400C",
     "st1c0D 8n400C 9d1c0D 9d1c0C sg2o0D 9d1c0C 902o0D 9q000C a2yo0D 8n400C 9d1c0D 9d1c0C",
     "902o0D 9q000C a2yo0D b5uo0C 51hc0D bmio0C 99c00D 9ew00C 88ao0D 25p80E 5reo0D 3lpg0C",
     "779c0D 1sqk0E 6uao0D 38qs0C 6uao0D 25p80E 6hc00D 38qs0C 6uao0D 25p80E 6hc00D 38qs0C",
     "8a5c0D 9d1c0C 9d9o0D 9d1c0C 9d1c0D 9d1c0C 9d1c0D 9d1c0C 9d1c0D 9d1c0C 9d1c0D 9q000C",
     "9d1c0D 9d1c0C 9d1c0D 9d1c0C 9d1c0D 9d1c0C 9d1c0D 9d1c0C 9d1c0D 9q000C 9d1c0D 9d1c0C",
     "9d1c0D 9d1c0C 9d1c0D 9d1c0C 9d1c0D 9d1c0C 9d1c0D 9d1c0C 9d1c0D 9q000C 9d1c0D 9d1c0C",
     "9d1c0D 9d1c0C 9d1c0D 9d1c0C 9d1c0D 9d1c0F 83at00G 902o0F 9d1c0G 9d1c0F 9d1c0G 9q000F",
     "9d1c0G 9d1c0F 9d1c0G 9d440F 9d1c0G 9d1c0F 9d1c0G 9d1c0F 9d1c0G 9d1c0F 9d1c0G 9q000F",
     "9d1c0G 9d1c0F 9d1c0G 9d1c0F 9d1c0G 9d1c0F 9d1c0G 9d1c0F 9d1c0G 9d1c0F 9q000G"],
    "WET0WEST,M3.5.0/1,M10.5.0"⟩,
  ⟨["Atlantic/South_Georgia"],
    "-8768/LMT -7200/-02",
    ["-15r12kgB 259l3jzB"],
    "<-02>2"⟩,
  ⟨["Atlantic/Stanley"],
    "-13884/LMT -13884/SMT -14400/-04 -10800/-03 -7200/-02",
    ["-15r0ymcB bkx9c0C dbvxqcD 8zzw0C 9q2s0D 8zzw0C a31g0D 8zzw0C 9q2s0D 8zzw0C 9q2s0D 8zzw0C",
     "9q2s0D 4xp80C l1pus0D 7k580E b5rw0D 77c40E biqk0D 77c40D b5uo0C 7kas0D b5rw0C 7kas0D",
     "b5rw0C 7kas0D b5rw0C 7kas0D biqk0C 77c40D biqk0C 7kas0D b5rw0C 7kas0D b5rw0C 7kas0D",
     "b5rw0C 7kas0D b5rw0C 7kas0D biqk0C 7kas0D b5rw0C 7kas0D b5rw0C 7kas0D b5rw0C 7kas0D",
     "b5rw0C 7kas0D b5xg0C 77c40D bvp80C 6udg0D bvp80C 77c40D biqk0C 77c40D biqk0C 77c40D",
     "biqk0C 77c40D biqk0C 77c40D bvp80C 77c40D biqk0C 77c40D biqk0C 77c40D eaalnjD"],
    "<-03>3"⟩]

/-- The regions filed under Australia. -/
def australia : List ZoneRecord := [
  ⟨["Australia/Adelaide", "Australia/South"],
    "33260/LMT 32400/ACST 34200/ACST 37800/ACDT",
    ["-133j2zwB 27qdzwC 97zyu0D 49pc0C cxfk00D 4h400C 9d1c0D 9d1c0C 9q000D 902o0C eeio00D",
     "64dc0C clpc0D 6hc00C c8qo0D 6hc00C c8qo0D 6hc00C c8qo0D 6uao0C c8qo0D 6hc00C c8qo0D",
     "6hc00C c8qo0D 6hc00C c8qo0D 6hc00C c8qo0D 6hc00C c8qo0D 6uao0C c8qo0D 6hc00C c8qo0D",
     "6hc00C c8qo0D 6hc00C c8qo0D 779c0C b5uo0D 7k800C bitc0D 7k800C bitc0D 779c0C bitc0D",
     "779c0C bitc0D 6hc00C c8qo0D 7k800C b5uo0D 6uao0C c8qo0D 779c0C bitc0D 7k800C b5uo0D",
     "7x6o0C asw00D 7x6o0C asw00D 7x6o0C asw00D 7x6o0C b5uo0D 7k800C b5uo0D 7k800C b5uo0D",
     "7x6o0C asw00D 7x6o0C asw00D 7x6o0C b5uo0D 7k800C b5uo0D 7x6o0C asw00D 7k800C b5uo0D"],
    "ACST-9:30ACDT,M10.1.0,M4.1.0/3"⟩,
  ⟨["Australia/Brisbane", "Australia/Queensland"],
    "36728/LMT 36000/AEST 39600/AEDT",
    ["-1354kc8B bhbss8C 49pc0B cxfk00C 4h400B 9d1c0C 9d1c0B 9q000C 902o0B eeio00C 64dc0B",
     "97zuo0C 6hc00B c8qo0C 6hc00B c8qo0C 6hc00B"],
    "AEST-10"⟩,
  ⟨["Australia/Broken_Hill", "Australia/Yancowinna"],
    "33948/LMT 36000/AEST 32400/ACST 34200/ACST 37800/ACDT",
    ["-133j3j0B t9nr0C 1egqs0D 97zyu0E 49pc0D cxfk00E 4h400D 9d1c0E 9d1c0D 9q000E 902o0D",
     "eeio00E 64dc0D clpc0E 6hc00D c8qo0E 6hc00D c8qo0E 6hc00D c8qo0E 6uao0D c8qo0E 6hc00D",
     "c8qo0E 6hc00D c8qo0E 6hc00D c8qo0E 6hc00D c8qo0E 6hc00D c8qo0E 8a5c0D asw00E 6hc00D",
     "c8qo0E 6hc00D c8qo0E 6hc00D c8qo0E 779c0D b5uo0E 7k800D bitc0E 7k800D bitc0E 779c0D",
     "bitc0E 6hc00D c8qo0E 6hc00D c8qo0E 6hc00D c8qo0E 6uao0D c8qo0E 6hc00D c8qo0E 6hc00D",
     "c8qo0E 7x6o0D asw00E 7x6o0D asw00E 7x6o0D asw00E 7x6o0D b5uo0E 7k800D b5uo0E 7k800D",
     "b5uo0E 7x6o0D asw00E 7x6o0D asw00E 7x6o0D b5uo0E 7k800D b5uo0E 7x6o0D asw00E 7k800D",
     "b5uo0E"],
    "ACST-9:30ACDT,M10.1.0,M4.1.0/3"⟩,
  ⟨["Australia/Darwin", "Australia/North"],
    "31400/LMT 32400/ACST 34200/ACST 37800/ACDT",
    ["-133j1k8B 27qck8C 97zyu0D 49pc0C cxfk00D 4h400C 9d1c0D 9d1c0C 9q000D 902o0C"],
    "ACST-9:30"⟩,
  ⟨["Australia/Eucla"],
    "30928/LMT 31500/+0845 35100/+0945",
    ["-12nxx74B b05944C 49pc0B cxfk00C 4h400B 9d1c0C 9d1c0B gheyo0C 6hc00B 4ir9c0C 6hc00B",
     "40r400C 5eg00B 7p9hc0C 5reo0B b5uo0C 7x6o0B asw00C 7x6o0B f1bt2jB"],
    "<+0845>-8:45"⟩,
  ⟨["Australia/Hobart", "Australia/Currie", "Australia/Tasmania"],
    "35356/LMT 36000/AEST 39600/AEDT",
    ["-12smja4B b03ee4C 902o0B b5uo0C 6hc00B c8qo0C 6hc00B bx2ao0C 4h400B 9d1c0C 9d1c0B 9q000C",
     "902o0B c9tk00C 9d1c0B asw00C 6uao0B bvs00C 6uao0B bvs00C 779c0B bvs00C 64dc0B clpc0C",
     "6hc00B c8qo0C 6hc00B c8qo0C 6hc00B c8qo0C 6uao0B c8qo0C 6hc00B c8qo0C 6hc00B c8qo0C",
     "6hc00B c8qo0C 6hc00B c8qo0C 6hc00B c8qo0C 7x6o0B b5uo0C 7k800B b5uo0C 6hc00B c8qo0C",
     "6hc00B c8qo0C 6hc00B bvs00C 7k800B bitc0C 7k800B bitc0C 779c0B bitc0C 779c0B bitc0C",
     "7x6o0B 9q000C 902o0B 9q000C 902o0B 9q000C 902o0B 9q000C 902o0B 9q000C 9d1c0B 9q000C",
     "902o0B 9q000C 902o0B 9q000C 902o0B 9q000C 902o0B 7x6o0C asw00B a2yo0C 902o0B 9q000C",
     "902o0B 9q000C 902o0B 9q000C 902o0B 9q000C 9d1c0B 9d1c0C 902o0B a2yo0C"],
    "AEST-10AEDT,M10.1.0,M4.1.0/3"⟩,
  ⟨["Australia/Lindeman"],
    "35756/LMT 36000/AEST 39600/AEDT",
    ["-1354jl8B bhbs18C 49pc0B cxfk00C 4h400B 9d1c0C 9d1c0B 9q000C 902o0B eeio00C 64dc0B",
     "97zuo0C 6hc00B c8qo0C 6hc00B c8qo0C 6hc00B c8qo0C 6uao0B c8qo0C 6hc00B"],
    "AEST-10"⟩,
  ⟨["Australia/Lord_Howe", "Australia/LHI"],
    "38180/LMT 36000/AEST 37800/+1030 41400/+1130 39600/+11",
    ["-133j6skB 18x8f0kC c8uu0D 6u7w0C c8tg0D 6h980C c8tg0D 6h980C c8tg0D 6h980C c8tg0E 777y0C",
     "b5w20E 7k6m0C biuq0E 7k6m0C biuq0E 777y0C biuq0E 6ham0C c8s20E 6ham0C c8s20E 6ham0C",
     "c8s20E 6u9a0C c8s20E 6ham0C c8s20E 6ham0C c8s20E 7x5a0C asxe0E 7x5a0C asxe0E 7x5a0C",
     "asxe0E 7x5a0C b5w20E 7k6m0C 7x820E asum0C b5w20E 7x5a0C asxe0E 7x5a0C asxe0E 7x5a0C",
     "b5w20E 7k6m0C b5w20E 7x5a0C asxe0E 7k6m0C b5w20E 8a3y0C 9d2q0E 9czy0C 9d2q0E 9czy0C",
     "9d2q0E 9czy0C 9d2q0E 9czy0C 9q1e0E 9czy0C 9d2q0E 9czy0C 9d2q0E 9czy0C 9d2q0E 9czy0C",
     "9d2q0E 9czy0C 9d2q0E 9czy0C 9q1e0E 9czy0C 9d2q0E 9czy0C 9d2q0E 9czy0C 9d2q0E 9czy0C",
     "9d2q0E 9czy0C 9d2q0E 9pym0C 9d2q0E 9czy0C 9d2q0E 9czy0C 9d2q0E 9czy0C 9d2q0E 9czy0C",
     "9d2q0E 9czy0C 9q1e0E 9czy0C 9d2q0E 9czy0C 9d2q0E 9czy0C 9d2q0E 9czy0C 9d2q0E 9czy0C",
     "9d2q0E 9czy0C 9q1e0E 9czy0C 9d2q0E 9czy0C 9d2q0E 5j1xjE"],
    "<+1030>-10:30<+11>-11,M10.1.0,M4.1.0"⟩,
  ⟨["Australia/Melbourne", "Australia/Victoria"],
    "34792/LMT 36000/AEST 39600/AEDT",
    ["-133j46gB bfqcmgC 49pc0B cxfk00C 4h400B 9d1c0C 9d1c0B 9q000C 902o0B eeio00C 64dc0B",
     "clpc0C 6hc00B c8qo0C 6hc00B c8qo0C 6hc00B c8qo0C 6uao0B c8qo0C 6hc00B c8qo0C 6hc00B",
     "c8qo0C 6hc00B c8qo0C 6hc00B c8qo0C 6hc00B c8qo0C 6uao0B c8qo0C 6hc00B c8qo0C 6hc00B",
     "c8qo0C 6hc00B c8qo0C 779c0B b5uo0C 7k800B b5uo0C 7x6o0B bitc0C 779c0B bitc0C 779c0B",
     "bitc0C 6hc00B c8qo0C 6hc00B c8qo0C 6uao0B c8qo0C 6hc00B c8qo0C 7k800B b5uo0C 7x6o0B",
     "asw00C 7x6o0B asw00C 7x6o0B asw00C 7x6o0B b5uo0C 7k800B 7x6o0C asw00B b5uo0C 7x6o0B",
     "asw00C 7x6o0B asw00C 7x6o0B b5uo0C 7k800B b5uo0C 7x6o0B asw00C 7k800B b5uo0C"],
    "AEST-10AEDT,M10.1.0,M4.1.0/3"⟩,
  ⟨["Australia/Perth", "Australia/West"],
    "27804/LMT 28800/AWST 32400/AWDT",
    ["-12nxuscB b058scC 49pc0B cxfk00C 4h400B 9d1c0C 9d1c0B gheyo0C 6hc00B 4ir9c0C 6hc00B",
     "40r400C 5eg00B 7p9hc0C 5reo0B b5uo0C 7x6o0B asw00C 7x6o0B"],
    "AWST-8"⟩,
  ⟨["Australia/Sydney", "Australia/ACT", "Australia/Canberra", "Australia/NSW"],
    "36292/LMT 36000/AEST 39600/AEDT",
    ["-133j5c4B bfqds4C 49pc0B cxfk00C 4h400B 9d1c0C 9d1c0B 9q000C 902o0B eeio00C 64dc0B",
     "clpc0C 6hc00B c8qo0C 6hc00B c8qo0C 6hc00B c8qo0C 6uao0B c8qo0C 6hc00B c8qo0C 6hc00B",
     "c8qo0C 6hc00B c8qo0C 6hc00B c8qo0C 6hc00B c8qo0C 8a5c0B asw00C 6hc00B c8qo0C 6hc00B",
     "c8qo0C 6hc00B c8qo0C 779c0B b5uo0C 7k800B bitc0C 7k800B bitc0C 779c0B bitc0C 6hc00B",
     "c8qo0C 6hc00B c8qo0C 6hc00B c8qo0C 6uao0B c8qo0C 6hc00B c8qo0C 6hc00B c8qo0C 7x6o0B",
     "asw00C 7x6o0B asw00C 7x6o0B asw00C 7x6o0B b5uo0C 7k800B 7x6o0C asw00B b5uo0C 7x6o0B",
     "asw00C 7x6o0B asw00C 7x6o0B b5uo0C 7k800B b5uo0C 7x6o0B asw00C 7k800B b5uo0C"],
    "AEST-10AEDT,M10.1.0,M4.1.0/3"⟩]

/-- The regions filed under fixed offsets. -/
def nautical : List ZoneRecord := [
  ⟨["Etc/GMT", "Etc/GMT+0", "Etc/GMT-0", "Etc/GMT0", "Etc/Greenwich", "GMT", "GMT+0", "GMT-0",
    "GMT0", "Greenwich"],
    "0/GMT",
    [],
    "GMT0"⟩,
  ⟨["Etc/GMT+1"],
    "-3600/-01",
    [],
    "<-01>1"⟩,
  ⟨["Etc/GMT+10"],
    "-36000/-10",
    [],
    "<-10>10"⟩,
  ⟨["Etc/GMT+11"],
    "-39600/-11",
    [],
    "<-11>11"⟩,
  ⟨["Etc/GMT+12"],
    "-43200/-12",
    [],
    "<-12>12"⟩,
  ⟨["Etc/GMT+2"],
    "-7200/-02",
    [],
    "<-02>2"⟩,
  ⟨["Etc/GMT+3"],
    "-10800/-03",
    [],
    "<-03>3"⟩,
  ⟨["Etc/GMT+4"],
    "-14400/-04",
    [],
    "<-04>4"⟩,
  ⟨["Etc/GMT+5"],
    "-18000/-05",
    [],
    "<-05>5"⟩,
  ⟨["Etc/GMT+6"],
    "-21600/-06",
    [],
    "<-06>6"⟩,
  ⟨["Etc/GMT+7"],
    "-25200/-07",
    [],
    "<-07>7"⟩,
  ⟨["Etc/GMT+8"],
    "-28800/-08",
    [],
    "<-08>8"⟩,
  ⟨["Etc/GMT+9"],
    "-32400/-09",
    [],
    "<-09>9"⟩,
  ⟨["Etc/GMT-1"],
    "3600/+01",
    [],
    "<+01>-1"⟩,
  ⟨["Etc/GMT-10"],
    "36000/+10",
    [],
    "<+10>-10"⟩,
  ⟨["Etc/GMT-11"],
    "39600/+11",
    [],
    "<+11>-11"⟩,
  ⟨["Etc/GMT-12"],
    "43200/+12",
    [],
    "<+12>-12"⟩,
  ⟨["Etc/GMT-13"],
    "46800/+13",
    [],
    "<+13>-13"⟩,
  ⟨["Etc/GMT-14"],
    "50400/+14",
    [],
    "<+14>-14"⟩,
  ⟨["Etc/GMT-2"],
    "7200/+02",
    [],
    "<+02>-2"⟩,
  ⟨["Etc/GMT-3"],
    "10800/+03",
    [],
    "<+03>-3"⟩,
  ⟨["Etc/GMT-4"],
    "14400/+04",
    [],
    "<+04>-4"⟩,
  ⟨["Etc/GMT-5"],
    "18000/+05",
    [],
    "<+05>-5"⟩,
  ⟨["Etc/GMT-6"],
    "21600/+06",
    [],
    "<+06>-6"⟩,
  ⟨["Etc/GMT-7"],
    "25200/+07",
    [],
    "<+07>-7"⟩,
  ⟨["Etc/GMT-8"],
    "28800/+08",
    [],
    "<+08>-8"⟩,
  ⟨["Etc/GMT-9"],
    "32400/+09",
    [],
    "<+09>-9"⟩,
  ⟨["Etc/UTC", "Etc/UCT", "Etc/Universal", "Etc/Zulu", "UCT", "UTC", "Universal", "Zulu"],
    "0/UTC",
    [],
    "UTC0"⟩]

/-- The regions filed under Europe. -/
def europe : List ZoneRecord := [
  ⟨["Europe/Andorra"],
    "364/LMT 0/WET 3600/CET 7200/CEST",
    ["-100edm4B nvgqy4C k3ctg0D 9d1c0C 9d1c0D 9d1c0C 9d1c0D 9d1c0C 9d1c0D 9d1c0C 9d1c0D 9d1c0C",
     "9d1c0D 9q000C 9d1c0D 9d1c0C 9d1c0D 9d1c0C 9d1c0D 9d1c0C 9d1c0D 9d1c0C 9d1c0D 9d1c0C",
     "9q000D"],
    "CET-1CEST,M3.5.0,M10.5.0/3"⟩,
  ⟨["Europe/Astrakhan"],
    "11532/LMT 10800/+03 14400/+04 18000/+05",
    ["-nu2zkcB 37bv8cC qi27w0D 9et80C 9d440D 9et80C 9d440D 9et80C 9eys0D 9d6w0C 9d1c0D 9d1c0C",
     "9d1c0D 9d1c0C 9d1c0D 9d1c0C 9d1c0D 9d1c0C 9d1c0C 9d440B 9d1c0C 9q000B 9d1c0C ipzw0C",
     "9d440B 9d1c0C 9d1c0B 9d1c0C 9d1c0B 9d1c0C 9d1c0B 9q000C asw00B 7x6o0C asw00B 7x6o0C",
     "asw00B 7x6o0C b5uo0B 7k800C b5uo0B 7k800C b5uo0B 7x6o0C asw00B 7x6o0C asw00B 7x6o0C",
     "b5uo0B 7k800C b5uo0B 7k800C b5uo0B 7k800C b5uo0B 7x6o0C asw00B 7x6o0C asw00B 7x6o0C",
     "b5uo0B 7k800C 1vbzw0B qnc40C bdvvrjC"],
    "<+04>-4"⟩,
  ⟨["Europe/Athens", "EET"],
    "5692/LMT 5692/AMT 7200/EET 10800/EEST 7200/CEST 3600/CET",
    ["-12rxtq4B aw2tdoC 8bjasgD 2vmk0C 4hiw40D 16ik0E scog0F 7lx40E 9o2k0F 9eys0C 4atzw0D",
     "6djw0C bplus0D bq800C 71uw0D 9d1c0C 902o0D 91xc0C 9o5c0D 905g0C 9qgo0D 9akg0C 9iik0D",
     "99980C 9dcg0D 9d1c0C 9d1c0D 9d1c0C 9d1c0D 9d1c0C 9d1c0D 9q000C 9d1c0D 9d1c0C 9d1c0D",
     "9d1c0C 9d1c0D 9d1c0C 9d1c0D 9d1c0C 9d1c0D 9d1c0C 9d1c0D 9q000C 9d1c0D 9d1c0C 9d1c0D",
     "9d1c0C 9d1c0D 9d1c0C 9d1c0D 9d1c0C 9d1c0D 9d1c0C 9q000D"],
    "EET-2EEST,M3.5.0/3,M10.5.0/4"⟩,
  ⟨["Europe/Belgrade", "Europe/Ljubljana", "Europe/Podgorica", "Europe/Sarajevo",
    "Europe/Skopje", "Europe/Zagreb"],
    "4920/LMT 3600/CET 7200/CEST",
    ["-18vsmgoB twhnkoC swz00B 7k800C 9q000B 9d1c0C 9d1c0B b7pc0C 6qlc0B jl1hc0C 9d1c0B 9d1c0C",
     "9q000B 9d1c0C 9d1c0B 9d1c0C 9d1c0B 9d1c0C 9d1c0B 9d1c0C 9d1c0B 9d1c0C 9d1c0B 9d1c0C",
     "9q000B 9d1c0C 9d1c0B 9d1c0C 9d1c0B 9d1c0C 9d1c0B 9d1c0C 9d1c0B 9d1c0C 9d1c0B 9q000C"],
    "CET-1CEST,M3.5.0,M10.5.0/3"⟩,
  ⟨["Europe/Berlin", "Arctic/Longyearbyen", "Atlantic/Jan_Mayen", "Europe/Copenhagen",
    "Europe/Oslo", "Europe/Stockholm"],
    "3208/LMT 3600/CET 7200/CEST 10800/CEMT",
    ["-1421154B c1n0x4C 7ves0B a4yw0C 7x6o0B asw00C 7x6o0B b8qdc0C 1cm000B 7k800C 9q000B",
     "9d1c0C 9d1c0B 9d1c0C 2o7w0D 6bs00C 2txg0B 7k800C 91xc0B 9b9g0C 1sqk0D 2inw0C 51k40B",
     "a2yo0C 8n400B 9q000C 902o0B fx91c0C 902o0B 9d1c0C 9d1c0B 9d1c0C 9d1c0B 9d1c0C 9d1c0B",
     "9d1c0C 9q000B 9d1c0C 9d1c0B 9d1c0C 9d1c0B 9d1c0C 9d1c0B 9d1c0C 9d1c0B 9d1c0C 9d1c0B",
     "9d1c0C 9q000B 9d1c0C 9d1c0B 9d1c0C 9d1c0B 9d1c0C 9d1c0B 9d1c0C 9d1c0B 9d1c0C 9d1c0B",
     "9q000C"],
    "CET-1CEST,M3.5.0,M10.5.0/3"⟩,
  ⟨["Europe/Brussels", "CET", "Europe/Amsterdam", "Europe/Luxembourg", "MET"],
    "1050/LMT 1050/BMT 0/WET 3600/CET 7200/CEST 3600/WEST",
    ["-1ayy3h6B 6forh6C br3hc0D rrx80E 7vc00D a4yw0E 7x6o0D asw00E 7x6o0D 2wh40C 5omo0F b5uo0C",
     "6uao0F cyo00C 7ayo0F bko00C 7rmo0F a2yo0C a2yo0F 8n400C 902o0F 9q000C 9d1c0F 9d1c0C",
     "a2yo0F 8n400C 9q000F 902o0C a2yo0F 90b00C a2yo0F 8n400C 9q000F 902o0C a2yo0F 8n400C",
     "9d1c0F 9d1c0C 902o0F a2yo0C 9d1c0F 9d1c0C 902o0F 9q000C a2yo0F 8n400C 9d1c0F 9d1c0C",
     "902o0F 9q000C a2yo0F b5uo0C 51hc0F 4deo0E 1a36k0D 7k800E 9q000D 9d1c0E 8l9c0D a4tc0E",
     "8l9c0D clpc0E 79400D fwu800E 902o0D 9q000E 9d1c0D 9d1c0E 9d1c0D 9q000E 902o0D 9d1c0E",
     "9d1c0D 9d1c0E 9d1c0D 9d1c0E 9d1c0D 9d1c0E 9q000D 9d1c0E 9d1c0D 9d1c0E 9d1c0D 9d1c0E",
     "9d1c0D 9d1c0E 9d1c0D 9d1c0E 9d1c0D 9d1c0E 9q000D 9d1c0E 9d1c0D 9d1c0E 9d1c0D 9d1c0E",
     "9d1c0D 9d1c0E 9d1c0D 9d1c0E 9d1c0D 9q000E"],
    "CET-1CEST,M3.5.0,M10.5.0/3"⟩,
  ⟨["Europe/Bucharest"],
    "6264/LMT 6264/BMT 7200/EET 10800/EEST",
    ["-14u7wu0B krxxc0C fj8m0D 6w5c0C 9d1c0D 9d1c0C 9q000D 9d1c0C 9d1c0D 9d1c0C 9d1c0D 9d1c0C",
     "9d1c0D 9d1c0C 9d1c0D 9d1c0C 9d1c0D 9d1c0C kp0dc0D 6h980C 9q000D 905g0C 9d6w0D 9d1c0C",
     "9d1c0D 9d1c0C 9d1c0D 9d1c0C 9d1c0D 9q000C 9d1c0D 9d1c0C 9d1c0D 9d1c0C 9d1c0D 9d1c0C",
     "9d1c0D 9d1c0C 9d1c0D 9d1c0C 9d1c0D 9q000C 9cvs0D 9d1c0C 9d1c0D 9d1c0C 9d1c0D 9d1c0C",
     "9d1c0D 9cyk0C 9d440D 9cyk0C 9q2s0D ast80C 7xhs0D"],
    "EET-2EEST,M3.5.0/3,M10.5.0/4"⟩,
  ⟨["Europe/Budapest"],
    "4580/LMT 3600/CET 7200/CEST",
    ["-15bee78B db0dz8C 7ves0B a4yw0C 7x6o0B asw00C 7x6o0B auqo0C 7vc00B afxc0C 8n400B aq1x00C",
     "thcc0B 7k800C 9q000B 9d1c0C 9d1c0B awd00C 9eys0B 7pxk0C 9rrw0B 9b9g0C 9d1c0B 9d1c0C",
     "9d1c0B 9q000C 902o0B 2f4vs0C 6u7w0B bw0c0C 6uao0B clpc0C 64dc0B clpc0C 64dc0B br3bs0C",
     "902o0B 9d1c0C 9d1c0B 9d1c0C 9d1c0B 9d1c0C 9d1c0B 9d6w0C 9q000B 9d1c0C 9d1c0B 9d1c0C",
     "9d1c0B 9d1c0C 9d1c0B 9d1c0C 9d1c0B 9d1c0C 9d1c0B 9d1c0C 9q000B 9d1c0C 9d1c0B 9d1c0C",
     "9d1c0B 9d1c0C 9d1c0B 9d1c0C 9d1c0B 9d1c0C 9d1c0B 9q000C"],
    "CET-1CEST,M3.5.0,M10.5.0/3"⟩,
  ⟨["Europe/Chisinau", "Europe/Tiraspol"],
    "6920/LMT 6900/CMT 6264/BMT 7200/EET 10800/EEST 7200/CEST 3600/CET 10800/MSK 14400/MSD",
    ["-1ayy808B jw96okC 70f1toD fj8m0E 6w5c0D 9d1c0E 9d1c0D 9q000E 9d1c0D 9d1c0E 9d1c0D 9d1c0E",
     "9d1c0D 9d1c0E 9d1c0D 9d1c0E 9d1c0D 9d1c0E 9d1c0D geqo0E ha580F oc8g0G 7k800F 9q000G",
     "9d1c0F 7cl00H j3pbw0I 9et80H 9d440I 9et80H 9d440I 9et80H 9eys0I 9d6w0H 9d1c0I 9d1c0H",
     "9d1c0I 9d1c0H 9d1c0I 9d1c0H 9d1c0I 9d1c0H 9d1c0I 9d1c0H 9d1c0I 25p80E 7kdk0D 9d1c0E",
     "9d1c0D 9cvs0E 9cyk0D 9d440E 9cyk0D 9d440E 9cyk0D 9d440E 9cyk0D 9q2s0E ast80D 7xf00E",
     "asw00D 7x6o0E asw00D 7x6o0E b5uo0D 7k800E b5uo0D 7k800E b5uo0D 7x6o0E asw00D 7x6o0E",
     "asw00D 7x6o0E b5uo0D 7k800E b5uo0D 7k800E b5uo0D 7k800E b5uo0D 7x6o0E asw00D 7x6o0E",
     "asw00D 7x6o0E b5uo0D 7k800E b5uo0D 7k800E b5uo0D 7x6o0E asw00D 7x6o0E asw00D 7x6o0E",
     "asw00D 7x6o0E b5uo0D 7k800E b5uo0D 7k800E b5uo0D 7x6o0E asw00D 7x6o0E asw00D 7x6o0E",
     "b5uo0D 7kas0E"],
    "EET-2EEST,M3.5.0/3,M10.5.0/4"⟩,
  ⟨["Europe/Dublin", "Eire"],
    "-1521/LMT -1521/DMT 2079/IST 0/GMT 3600/BST 3600/IST",
    ["-1anxqtrB iol480C 6uao0D 9pytrE 8c000D 9o5c0E 9ruo0D 9b6o0E 9ew00D 9b6o0E auqo0D 88ao0E",
     "9ew00D 8y800F a2yo0D a2yo0F 7k800D asw00F 8a5c0D asw00F 8n400D a2yo0F 8n400D 9q000F",
     "902o0D afxc0F 8n400D a2yo0F 8n400D 9q000F 902o0D a2yo0F 8n400D a2yo0F 8n400D 9q000F",
     "9d1c0D a2yo0F 8n400D 9q000F 902o0D a2yo0F 8n400D a2yo0F 8n400D 9q000F 902o0D a2yo0F",
     "b5uo0D 51hc0F 3g8800D 8a5c0F bvs00D 8n400F a2yo0D 7x6o0F asw00D 8n400F 9q000D 902o0F",
     "9q000D 9d1c0F 9q000D 902o0F 8n400D 9q000F 902o0D a2yo0F 8n400D afxc0F 8n400D 9q000F",
     "902o0D a2yo0F 8n400D a2yo0F 8n400D 9q000F 902o0D 902o0F b5uo0D 7k800F b5uo0D 7x6o0F",
     "asw00D 7k800F b5uo0D 7k800F b5uo0D 7k800F b5uo0D 7k800F bitc0D 5reo0F cyfo0F 1kjf00D",
     "779c0F bitc0D 779c0F bitc0D 779c0F bitc0D 779c0F bitc0D 7k800F b5uo0D 7k800F b5uo0D",
     "7k800F bitc0D 779c0F bitc0D 779c0F bitc0D 7x3w0F asw00D 7x6o0F asw00D 7x6o0F asw00D",
     "7x6o0F b5uo0D 7x6o0F asw00D 7x6o0F asw00D 7x6o0F asw00D 7x6o0F asw00D 7x6o0F b5uo0D",
     "7k800F b5uo0D 7x6o0F asw00D 7x6o0F asw00D 7x6o0F asw00D 7x6o0F asw00D 7x6o0F asw00D",
     "8a5c0F"],
    "GMT0IST,M3.5.0/1,M10.5.0"⟩,
  ⟨["Europe/Gibraltar"],
    "-1284/LMT 0/GMT 3600/BST 7200/BDST 3600/CET 7200/CEST",
    ["-1anxr0cB iol38cC 6uao0B 9q000C 8c000B 9o5c0C 9ruo0B 9b6o0C 9ew00B 9b6o0C auqo0B 88ao0C",
     "9ew00B 8y800C a2yo0B a2yo0C 7k800B asw00C 8a5c0B asw00C 8n400B a2yo0C 8n400B 9q000C",
     "902o0B afxc0C 8n400B a2yo0C 8n400B 9q000C 902o0B a2yo0C 8n400B a2yo0C 8n400B 9q000C",
     "9d1c0B a2yo0C 8n400B 9q000C 902o0B a2yo0C 8n400B a2yo0C 8n400B 9q000C 902o0B a2yo0C",
     "b5uo0B 51hc0C mbmk0D 51hc0C c8qo0D 6hc00C c8qo0D 6uao0C bvs00D 8n400C a4tc0D 5clc0C",
     "4bms0B 9q000C 902o0B 8a5c0C 1frw0D 64dc0C 4bms0B 6uao0C bvs00B 7x6o0C asw00B 8n400C",
     "9q000B 902o0C 9q000B 9d1c0C 9q000B 902o0C 8n400B 9q000C 902o0B a2yo0C 8n400B afxc0C",
     "8n400B 9q000E d0tp80F 9d1c0E 9d1c0F 9d1c0E 9d1c0F 9q000E 9d1c0F 9d1c0E 9d1c0F 9d1c0E",
     "9d1c0F 9d1c0E 9d1c0F 9d1c0E 9d1c0F 9d1c0E 9d1c0F 9q000E 9d1c0F 9d1c0E 9d1c0F 9d1c0E",
     "9d1c0F 9d1c0E 9d1c0F 9d1c0E 9d1c0F 9d1c0E 9q000F"],
    "CET-1CEST,M3.5.0,M10.5.0/3"⟩,
  ⟨["Europe/Helsinki", "Europe/Mariehamn"],
    "5989/LMT 5989/HMT 7200/EET 10800/EEST",
    ["-1bss9ydB mebs00C ax3tqdD 9gqo0C k31s80D 9d1c0C 9d1c0D 9d1c0C 9d440D 9d1c0C 9d1c0D",
     "9q000C 9d1c0D 9d1c0C 9d1c0D 9d1c0C 9d1c0D 9d1c0C 9d1c0D 9d1c0C 9d1c0D 9d1c0C 9d1c0D",
     "9q000C 9d1c0D 9d1c0C 9d1c0D 9d1c0C 9d1c0D 9d1c0C 9d1c0D 9d1c0C 9d1c0D 9d1c0C 9q000D"],
    "EET-2EEST,M3.5.0/3,M10.5.0/4"⟩,
  ⟨["Europe/Istanbul", "Asia/Istanbul", "Turkey"],
    "6952/LMT 7016/IMT 7200/EET 10800/EEST 10800/+03 14400/+04",
    ["-1ayy814B g1oam8C 2wvx6wD 7v980C 1tjc40D aunw0C 88dg0D 9et80C 8yas0D a2vw0C tzpg0D",
     "79180C awo40D 7v980C 7p4040D 4zjw0C 2vs40D f4d80C 9vms0D 1u5ek0C c5440D 69uk0C acas0D",
     "8n180C a31g0D 8n180C 9q2s0D 8zzw0C a31g0D 8zzw0C a31g0D 8n180C 5md9g0D o9zw0C a6qs0D",
     "75bw0C 4iwyw0D 7x6o0C 7kas0D b5rw0C 75hg0D bkl80C 77c40D biqk0C 7x9g0D a2vw0C 8n6s0D",
     "4iqc0E 2nkw80F 38l80E kdes0C 8qtc0D 8a5c0C 9ew00D 9d1c0C 9d1c0D 9d1c0C 9d1c0D 9d1c0C",
     "9d1c0D 9d1c0C 9d1c0D 9q000C 9d1c0D 9d1c0C 9d1c0D 9d1c0C 9d1c0D 9d1c0C 902o0D 9q000C",
     "9d1c0D 9d1c0C 9q000D asw00C 7x6o0D asw00C 7x6o0D asw00C 7x6o0D b5uo0C 7k800D b5uo0C",
     "7k800D b5uo0C 7x6o0D asw00C 7x6o0D asw00C 7x6o0D b5uo0C 7k800D b5uo0C 7k800D b5uo0C",
     "7kdk0D b5uo0C 7x6o0D asw00C 7x6o0D asw00C 7x6o0D b5uo0C 7m2o0D b4000C 7k800D b5uo0C",
     "7x6o0D asw00C 7z1c0D ar1c0C 7x6o0D bitc0C 779c0D 8fe80E b5gbzjE"],
    "<+03>-3"⟩,
  ⟨["Europe/Kaliningrad"],
    "4920/LMT 3600/CET 7200/CEST 7200/EET 10800/EEST 10800/MSK 14400/MSD 10800/+03",
    ["-14212goB c1n28oC 7ves0B a4yw0C 7x6o0B asw00C 7x6o0B b8qdc0C 1cm000B 7k800C 9q000B",
     "9d1c0C 9d1c0B 9d1c0C el00D z6o0E 9kd80D 82tg0F i9avw0G 9et80F 9d440G 9et80F 9d440G",
     "9et80F 9eys0G 9d6w0F 9d1c0G 9d1c0F 9d1c0G 9d1c0F 9d1c0G 9d1c0F 9d1c0G 9d1c0F 9d1c0E",
     "9d440D 9d1c0E 9q000D 9d1c0E 9d1c0D 9d1c0E 9d1c0D 9d1c0E 9d1c0D 9d1c0E 9d1c0D 9d1c0E",
     "9d1c0D 9q000E asw00D 7x6o0E asw00D 7x6o0E asw00D 7x6o0E b5uo0D 7k800E b5uo0D 7k800E",
     "b5uo0D 7x6o0E asw00D 7x6o0E asw00D 7x6o0E b5uo0D 7k800E b5uo0D 7k800E b5uo0D 7k800E",
     "b5uo0D 7x6o0E asw00D 7x6o0E asw00D 7x6o0E b5uo0D 7k800H 1vbzw0D"],
    "EET-2"⟩,
  ⟨["Europe/Kirov"],
    "11928/LMT 10800/+03 14400/+04 18000/+05 14400/MSD 10800/MSK 14400/MSK",
    ["-qcx400B 5q5zo0C qi27w0D 9et80C 9d440D 9et80C 9d440D 9et80C 9eys0D 9d6w0C 9d1c0D 9d1c0C",
     "9d1c0D 9d1c0C 9d1c0D 9d1c0C 9d1c0D 9d1c0C 9d1c0E 9d440F 9d1c0E 9q000F 9d1c0C ipzw0E",
     "9d440F 9d1c0E 9d1c0F 9d1c0E 9d1c0F 9d1c0E 9d1c0F 9q000E asw00F 7x6o0E asw00F 7x6o0E",
     "asw00F 7x6o0E b5uo0F 7k800E b5uo0F 7k800E b5uo0F 7x6o0E asw00F 7x6o0E asw00F 7x6o0E",
     "b5uo0F 7k800E b5uo0F 7k800E b5uo0F 7k800E b5uo0F 7x6o0E asw00F 7x6o0E asw00F 7x6o0E",
     "b5uo0F 7k800G 1vbzw0F"],
    "MSK-3"⟩,
  ⟨["Europe/Kyiv", "Europe/Kiev", "Europe/Uzhgorod", "Europe/Zaporozhye"],
    "7324/LMT 7324/KMT 7200/EET 10800/MSK 7200/CEST 3600/CET 14400/MSD 10800/EEST",
    ["-1ayy8bgB n4x6o0C 37a03gD 5vd6k0E kzv40F 7k800E 9q000F 1oyg0D jipzs0G 9et80D 9d440G",
     "9et80D 9d440G 9et80D 9eys0G 9d6w0D 9d1c0G 9d1c0D 9d1c0G 9d1c0D 9d1c0G 9d1c0D 9d1c0G",
     "9d1c0D 9d1c0G 9d1c0D 9d1c0G 51ek0H neqw0C 9d1c0H 9d1c0C 9d1c0H 9d1c0C 9d1c0H 9d1c0C",
     "9d1c0H 9d1c0C 9q000H asys0C"],
    "EET-2EEST,M3.5.0/3,M10.5.0/4"⟩,
  ⟨["Europe/Lisbon", "Portugal", "WET"],
    "-2205/LMT 0/WET 3600/WEST 7200/WEMT 3600/CET 7200/CEST",
    ["-18vsgyrA em0zmrB 2bufw0C 6zxg0B 66800C bq580B 71s40C bq580B 71s40C bq580B 73ms0C bq580B",
     "71s40C bq580B 1b2g00C 8so00B st1c0C 8n400B 9q000C 902o0B a2yo0C 902o0B a2yo0C 8n400B",
     "st1c0C 8n400B 9d1c0C 9d1c0B sg2o0C 9d1c0B 902o0C 9q000B a2yo0C 8n400B 9d1c0C 9d1c0B",
     "902o0C 9q000B a2yo0C b5uo0B 51hc0C bmio0B 99c00C 9ew00B 88ao0C 25p80D 5reo0C 3lpg0B",
     "779c0C 1sqk0D 6uao0C 38qs0B 6uao0C 25p80D 6hc00C 38qs0B 6uao0C 25p80D 6hc00C 38qs0B",
     "8a5c0C 9d1c0B 9d9o0C 9d1c0B 9d1c0C 9d1c0B 9d1c0C 9d1c0B 9d1c0C 9d1c0B 9d1c0C 9q000B",
     "9d1c0C 9d1c0B 9d1c0C 9d1c0B 9d1c0C 9d1c0B 9d1c0C 9d1c0B 9d1c0C 9q000B 9d1c0C 9d1c0B",
     "9d1c0C 9d1c0B 9d1c0C 9d1c0B 9d1c0C 9d1c0B 9d1c0C 9d1c0B 9d1c0C 9q000B 9d1c0C 9d1c0B",
     "9d1c0C 9d1c0B 9d1c0C 9d1c0B 9d1c0C 9d1c0E 57ljs0B 9d1c0C 9d1c0B 9q2s0C 9d1c0B 9d1c0C",
     "9d1c0B 9q000C 902o0B 9cyk0C 9d1c0B 9d1c0C 9d1c0B 9d1c0C 9d1c0B 9d1c0C 9q000B 9d1c0C",
     "9d1c0B 9d440C 9d1c0B 9d1c0C 9d1c0B 9d1c0C 9d1c0B 9d1c0C 9d1c0B 9d1c0C 9q000B 9d1c0C",
     "9d1c0B 9d1c0C 9d1c0E 9d1c0F 9d1c0E 9d1c0F 9d1c0E 9d1c0F 9d1c0E 9q000C"],
    "WET0WEST,M3.5.0/1,M10.5.0"⟩,
  ⟨["Europe/London", "Europe/Belfast", "Europe/Guernsey", "Europe/Isle_of_Man", "Europe/Jersey",
    "GB", "GB-Eire"],
    "-75/LMT 0/GMT 3600/BST 7200/BDST",
    ["-1rprx9xB zqf9hxC 6uao0B 9q000C 8c000B 9o5c0C 9ruo0B 9b6o0C 9ew00B 9b6o0C auqo0B 88ao0C",
     "9ew00B 8y800C a2yo0B a2yo0C 7k800B asw00C 8a5c0B asw00C 8n400B a2yo0C 8n400B 9q000C",
     "902o0B afxc0C 8n400B a2yo0C 8n400B 9q000C 902o0B a2yo0C 8n400B a2yo0C 8n400B 9q000C",
     "9d1c0B a2yo0C 8n400B 9q000C 902o0B a2yo0C 8n400B a2yo0C 8n400B 9q000C 902o0B a2yo0C",
     "b5uo0B 51hc0C mbmk0D 51hc0C c8qo0D 6hc00C c8qo0D 6uao0C bvs00D 8n400C a4tc0D 5clc0C",
     "4bms0B 9q000C 902o0B 8a5c0C 1frw0D 64dc0C 4bms0B 6uao0C bvs00B 7x6o0C asw00B 8n400C",
     "9q000B 902o0C 9q000B 9d1c0C 9q000B 902o0C 8n400B 9q000C 902o0B a2yo0C 8n400B afxc0C",
     "8n400B 9q000C 902o0B a2yo0C 8n400B a2yo0C 8n400B 9q000C 902o0B 902o0C b5uo0B 7k800C",
     "b5uo0B 7x6o0C asw00B 7k800C b5uo0B 7k800C b5uo0B 7k800C b5uo0B 7k800C bitc0B 5reo0C",
     "cyfo0C 1kjf00B 779c0C bitc0B 779c0C bitc0B 779c0C bitc0B 779c0C bitc0B 7k800C b5uo0B",
     "7k800C b5uo0B 7k800C bitc0B 779c0C bitc0B 779c0C bitc0B 7x3w0C asw00B 7x6o0C asw00B",
     "7x6o0C asw00B 7x6o0C b5uo0B 7x6o0C asw00B 7x6o0C asw00B 7x6o0C asw00B 7x6o0C asw00B",
     "7x6o0C b5uo0B 7k800C b5uo0B 7x6o0C asw00B 7x6o0C asw00B 7x6o0C asw00B 7x6o0C asw00B",
     "7x6o0C asw00B 8a5c0C"],
    "GMT0BST,M3.5.0/1,M10.5.0"⟩,
  ⟨["Europe/Madrid"],
    "-884/LMT 0/WET 3600/WEST 7200/WEMT 3600/CET 7200/CEST",
    ["-100edc0B 90sik0C 8yas0B 9cyk0C 9eys0B 2d2vw0C 8sqs0B ssyk0C 8n6s0B 9px80C 905g0B a2yo0C",
     "902o0B a2vw0C 8n6s0B 40lh80C 5k2s0B 9cyk0C 1frw0D 7z1c0C j1c80B 8a2k0E 13yt80F 685g0E",
     "brzw0F 8n6s0E a2vw0F 8n6s0E a2vw0F 8n6s0E a2vw0F 8n6s0E 1clx80F 7x9g0E cswik0F 905g0E",
     "9px80F 905g0E 8zzw0F 9d440E 9px80F 905g0E 9q5k0F 9d1c0E 9d1c0F 9d1c0E 9q000F 902o0E",
     "9d1c0F 9d1c0E 9d1c0F 9d1c0E 9d1c0F 9d1c0E 9d1c0F 9q000E 9d1c0F 9d1c0E 9d1c0F 9d1c0E",
     "9d1c0F 9d1c0E 9d1c0F 9d1c0E 9d1c0F 9d1c0E 9d1c0F 9q000E 9d1c0F 9d1c0E 9d1c0F 9d1c0E",
     "9d1c0F 9d1c0E 9d1c0F 9d1c0E 9d1c0F 9d1c0E 9q000F"],
    "CET-1CEST,M3.5.0,M10.5.0/3"⟩,
  ⟨["Europe/Malta"],
    "3484/LMT 3600/CET 7200/CEST",
    ["-13qyw0sB bsbx8sC 64ak0B 9d440C 9et80B 88dg0C aunw0B 7ig40C b5rw0B 8n6s0C 9cyk0B aau2s0C",
     "18r9k0B 7k800C 9q000B 9b6o0C 8n400B a4tc0C 8j940B 9f1k0C afxc0B 89zs0C afxc0B 7kdk0C",
     "b5uo0B 979rs0C 6h980B cls40C 64dc0B clpc0C 64dc0B cyo00C 64dc0B clpc0C 64dc0B c8qo0C",
     "6hc00B clpc0C 6hc00B 9b6o0C 9d1c0B ahs00C 7m2o0B b45k0C 7x3w0B asys0C 7x3w0B asys0C",
     "7x3w0B asys0C 7x3w0B asys0C 7x3w0B a4w40C 8y580B 9q2s0C 9d1c0B 9d1c0C 9d1c0B 9d1c0C",
     "9d1c0B 9d1c0C 9q000B 9d1c0C 9d1c0B 9d1c0C 9d1c0B 9d1c0C 9d1c0B 9d1c0C 9d1c0B 9d1c0C",
     "9d1c0B 9d1c0C 9q000B 9d1c0C 9d1c0B 9d1c0C 9d1c0B 9d1c0C 9d1c0B 9d1c0C 9d1c0B 9d1c0C",
     "9d1c0B 9q000C"],
    "CET-1CEST,M3.5.0,M10.5.0/3"⟩,
  ⟨["Europe/Minsk"],
    "6616/LMT 6600/MMT 7200/EET 10800/MSK 7200/CEST 3600/CET 14400/MSD 10800/EEST 10800/+03",
    ["-1ayy7rsB n4x6ogC 379zjcD 5r1mk0E pbf40F 7k800E 9q000F 9d1c0E 4oac0D j6dmk0G 9et80D",
     "9d440G 9et80D 9d440G 9et80D 9eys0G 9d6w0D 9d1c0G 9d1c0D 9d1c0G 9d1c0D 9d1c0G 9d1c0D",
     "9d1c0G 9d1c0D 9d1c0G 9d1c0D sg2o0H 9d440C 9d1c0H 9d1c0C 9d1c0H 9d1c0C 9d1c0H 9d1c0C",
     "9d1c0H 9d1c0C 9q000H asw00C 7x6o0H asw00C 7x6o0H asw00C 7x6o0H b5uo0C 7k800H b5uo0C",
     "7k800H b5uo0C 7x6o0H asw00C 7x6o0H asw00C 7x6o0H b5uo0C 7k800H b5uo0C 7k800H b5uo0C",
     "7k800H b5uo0C 7x6o0H asw00C 7x6o0H asw00C 7x6o0H b5uo0C 7k800I dzv4zjI"],
    "<+03>-3"⟩,
  ⟨["Europe/Moscow", "W-SU"],
    "9017/LMT 9017/MMT 9079/MMT 12679/MST 16279/MDST 14400/MSD 10800/MSK 18000/+05 7200/EET 10800/EEST 14400/MSK",
    ["-1ayy9mhB j1sw00C ipzuaD 97hc0C 7yyk0E 5i840D d9p80E 1jwk7F 2cvk0G s8o00F 1qvw0H 8fpc0F",
     "1jms0G is040I 412as0G qi27w0F 9et80G 9d440F 9et80G 9d440F 9et80G 9eys0F 9d6w0G 9d1c0F",
     "9d1c0G 9d1c0F 9d1c0G 9d1c0F 9d1c0G 9d1c0F 9d1c0G 9d1c0F 9d1c0G 9d1c0F 9q000G 9d1c0J",
     "9d440I 5reo0G 3ljw0F 9d1c0G 9d1c0F 9d1c0G 9d1c0F 9d1c0G 9d1c0F 9d1c0G 9q000F asw00G",
     "7x6o0F asw00G 7x6o0F asw00G 7x6o0F b5uo0G 7k800F b5uo0G 7k800F b5uo0G 7x6o0F asw00G",
     "7x6o0F asw00G 7x6o0F b5uo0G 7k800F b5uo0G 7k800F b5uo0G 7k800F b5uo0G 7x6o0F asw00G",
     "7x6o0F asw00G 7x6o0F b5uo0G 7k800K 1vbzw0G"],
    "MSK-3"⟩,
  ⟨["Europe/Paris", "Europe/Monaco"],
    "561/LMT 561/PMT 0/WET 3600/WEST 7200/CEST 3600/CET 7200/WEMT",
    ["-154gb3lB afgo00C 2qx1nlD 5luo0C 8y800D a4tc0C 7vc00D auqo0C 7idc0D b7pc0C 6sg00D cyo00C",
     "7ayo0D bko00C 7rmo0D a2yo0C bvs00D 6uao0C 902o0D 9q000C 9d1c0D 9d1c0C a2yo0D 8n400C",
     "9q000D 902o0C a2yo0D 902o0C a2yo0D 8n400C 9q000D 902o0C a2yo0D 8n400C 9d1c0D 9d1c0C",
     "902o0D a2yo0C 9d1c0D 9d1c0C 902o0D 9q000C a2yo0D 8n400C 9d1c0D 9d1c0C 902o0D 9q000C",
     "a2yo0D b5uo0C 51po0D 5p8w0E 18rcc0F 7k800E 9q000F 9d1c0E 7efo0G 29k40D 922w0G 8l9c0F",
     "fxlx80E 9cyk0F 9q5k0E 902o0F 9q000E 9d1c0F 9d1c0E 9d1c0F 9q000E 902o0F 9d1c0E 9d1c0F",
     "9d1c0E 9d1c0F 9d1c0E 9d1c0F 9d1c0E 9q000F 9d1c0E 9d1c0F 9d1c0E 9d1c0F 9d1c0E 9d1c0F",
     "9d1c0E 9d1c0F 9d1c0E 9d1c0F 9d1c0E 9q000F 9d1c0E 9d1c0F 9d1c0E 9d1c0F 9d1c0E 9d1c0F",
     "9d1c0E 9d1c0F 9d1c0E 9d1c0F 9q000E"],
    "CET-1CEST,M3.5.0,M10.5.0/3"⟩,
  ⟨["Europe/Prague", "Europe/Bratislava"],
    "3464/LMT 3464/PMT 3600/CET 7200/CEST 0/GMT",
    ["-1qmkw08B lsd1c0C cttug8D 7ves0C a4yw0D 7x6o0C asw00D 7x6o0C b8qdc0D 1cm000C 7k800D",
     "9q000C 9d1c0D 9d1c0C 9d1c0D 9d1c0C b5uo0D 7vc00C 2vs40E 4bk00C 2vmk0D 8n400C a2yo0D",
     "8n400C 9o5c0D 91xc0C fe6000D 9d1c0C 9q000D 902o0C 9d1c0D 9d1c0C 9d1c0D 9d1c0C 9d1c0D",
     "9d1c0C 9d1c0D 9q000C 9d1c0D 9d1c0C 9d1c0D 9d1c0C 9d1c0D 9d1c0C 9d1c0D 9d1c0C 9d1c0D",
     "9d1c0C 9d1c0D 9q000C 9d1c0D 9d1c0C 9d1c0D 9d1c0C 9d1c0D 9d1c0C 9d1c0D 9d1c0C 9d1c0D",
     "9d1c0C 9q000D"],
    "CET-1CEST,M3.5.0,M10.5.0/3"⟩,
  ⟨["Europe/Riga"],
    "5794/LMT 5794/RMT 9394/LST 7200/EET 10800/MSK 7200/CEST 3600/CET 14400/MSD 10800/EEST",
    ["-1ayy74yB jzalk0C 7x6o0B a4tc0C 2mg00B 3myns0D 7fhlkyE gz180F p5v40G 7k800F 9q000G",
     "9d1c0F 9d1c0G k7s0E j14ns0H 9et80E 9d440H 9et80E 9d440H 9et80E 9eys0H 9d6w0E 9d1c0H",
     "9d1c0E 9d1c0H 9d1c0E 9d1c0H 9d1c0E 9d1c0H 9d1c0E 9d1c0I 9d440D 9d1c0I 9q000D 9d1c0I",
     "9d1c0D 9d1c0I 9d1c0D 9d1c0I 9d1c0D 9d1c0I 9d1c0D 9d1c0I 9d1c0D 9q000I 9d1c0D 9d440I",
     "asw00D 7x6o0I asw00D 7x6o0I b5uo0D qaao0I"],
    "EET-2EEST,M3.5.0/3,M10.5.0/4"⟩,
  ⟨["Europe/Rome", "Europe/San_Marino", "Europe/Vatican"],
    "2996/LMT 2996/RMT 3600/CET 7200/CEST",
    ["-1hs7rn8B e170v8C bsds00D 64ak0C 9d440D 9et80C 88dg0D aunw0C 7ig40D b5rw0C 8n6s0D 9cyk0C",
     "aau2s0D 18r9k0C 7k800D 9q000C 9d1c0D 8l9c0C a4tc0D 8j940C 9f1k0D afxc0C 89zs0D afxc0C",
     "7kdk0D b5uo0C 979rs0D 6h980C cls40D 64dc0C clpc0D 64dc0C cyo00D 64dc0C clpc0D 64dc0C",
     "c8qo0D 6hc00C clpc0D 6hc00C clpc0D 64dc0C c8qo0D 6hc00C clpc0D 64dc0C clpc0D 64dc0C",
     "c8qo0D 6hc00C clpc0D 6hc00C c8qo0D 6hc00C 9q5k0D 902o0C 9d1c0D 9d1c0C 9d1c0D 9d1c0C",
     "9d1c0D 9d1c0C 9d1c0D 9q000C 9d1c0D 9d1c0C 9d1c0D 9d1c0C 9d1c0D 9d1c0C 9d1c0D 9d1c0C",
     "9d1c0D 9d1c0C 9d1c0D 9q000C 9d1c0D 9d1c0C 9d1c0D 9d1c0C 9d1c0D 9d1c0C 9d1c0D 9d1c0C",
     "9d1c0D 9d1c0C 9q000D"],
    "CET-1CEST,M3.5.0,M10.5.0/3"⟩,
  ⟨["Europe/Samara"],
    "12020/LMT 10800/+03 14400/+04 18000/+05",
    ["-qcx400B 5q5zo0C qi27w0D 9et80C 9d440D 9et80C 9d440D 9et80C 9eys0D 9d6w0C 9d1c0D 9d1c0C",
     "9d1c0D 9d1c0C 9d1c0D 9d1c0C 9d1c0D 9d1c0C 9d1c0C 9d440B 9d1c0C 9q000B 9d1c0B 9d440B",
     "12w00C 89zs0D 9d1c0C 9d1c0D 9d1c0C 9d1c0D 9d1c0C 9d1c0D 9d1c0C 9q000D asw00C 7x6o0D",
     "asw00C 7x6o0D asw00C 7x6o0D b5uo0C 7k800D b5uo0C 7k800D b5uo0C 7x6o0D asw00C 7x6o0D",
     "asw00C 7x6o0D b5uo0C 7k800D b5uo0C 7k800D b5uo0C 7k800D b5uo0C 7x6o0D asw00C 7x6o0D",
     "asw00C 7x6o0C b5xg0B 7k800C dzv7rjC"],
    "<+04>-4"⟩,
  ⟨["Europe/Saratov"],
    "11058/LMT 10800/+03 14400/+04 18000/+05",
    ["-qcx400B 5q5zo0C qi27w0D 9et80C 9d440D 9et80C 9d440D 9et80C 9eys0D 9d6w0C 9d1c0D 9d1c0C",
     "9d1c0D 9d1c0C 9d1c0D 9d1c0C 9d1c0C 9d440B 9d1c0C 9d1c0B 9d1c0C 9q000B 9d1c0C ipzw0C",
     "9d440B 9d1c0C 9d1c0B 9d1c0C 9d1c0B 9d1c0C 9d1c0B 9q000C asw00B 7x6o0C asw00B 7x6o0C",
     "asw00B 7x6o0C b5uo0B 7k800C b5uo0B 7k800C b5uo0B 7x6o0C asw00B 7x6o0C asw00B 7x6o0C",
     "b5uo0B 7k800C b5uo0B 7k800C b5uo0B 7k800C b5uo0B 7x6o0C asw00B 7x6o0C asw00B 7x6o0C",
     "b5uo0B 7k800C 1vbzw0B 13m040C b0x7rjC"],
    "<+04>-4"⟩,
  ⟨["Europe/Simferopol"],
    "8184/LMT 8160/SMT 7200/EET 10800/MSK 7200/CEST 3600/CET 14400/MSD 10800/EEST 14400/MSK",
    ["-1ayy8zcB n4x6ooC 37a0qoD 5xiyk0E iu340F 7k800E 9q000F 9d1c0E iac0D jajmk0G 9et80D",
     "9d440G 9et80D 9d440G 9et80D 9eys0G 9d6w0D 9d1c0G 9d1c0D 9d1c0G 9d1c0D 9d1c0G 9d1c0D",
     "9d1c0G 9d1c0D 9d1c0G 9d1c0D eeio0C wrpg0H 9d1c0C 9d1c0H 9d1c0C 9d1c0H 1sl00G 7kdk0D",
     "9d1c0G 9d1c0D 9pug0G at4c0D 7x9g0H asw00C 7x6o0H asw00C 7x6o0H b5uo0C 7k800H b5uo0C",
     "7k800H b5uo0C 7x6o0H asw00C 7x6o0H asw00C 7x6o0H b5uo0C 7k800H b5uo0C 7k800H b5uo0C",
     "7k800H b5uo0C 7x6o0H asw00C 7x6o0H asw00C 7x6o0H b5uo0C 7k800H b5uo0C 7k800H b5uo0C",
     "7x6o0H asw00C 7x3w0I asqg0D"],
    "MSK-3"⟩,
  ⟨["Europe/Sofia"],
    "5596/LMT 7016/IMT 7200/EET 3600/CET 7200/CEST 10800/EEST",
    ["-1ayy6zgB 7s708kC p0d6uwD 7k800E 9q000D 9d1c0E 9d1c0D 9d440C hqq240F 9eys0C 9o2k0F",
     "92040C 9o2k0F 90880C 9pug0F 90b00C 9d1c0F 9d1c0C 9d1c0F 9q000C 9d1c0F 9d1c0C 9d1c0F",
     "9d1c0C 9d1c0F 9d1c0C 9d1c0F 9d1c0C 9d1c0F 9d1c0C 9d1c0F 9q000C 9cvs0F 9cyk0C 9d440F",
     "9cyk0C 9d440F 9cyk0C 9d440F 9cyk0C 9d440F 9cyk0C 9q2s0F ast80C 7xhs0F"],
    "EET-2EEST,M3.5.0/3,M10.5.0/4"⟩,
  ⟨["Europe/Tallinn"],
    "5940/LMT 5940/TMT 3600/CET 7200/CEST 7200/EET 10800/MSK 14400/MSD 10800/EEST",
    ["-1ayy790B jvj9c0C 3re10D 7x6o0C et6g0B ygov0E a1zgd0F ktx80D l94g0C 7k800D 9q000C 9d1c0D",
     "8uac0F j27mk0G 9et80F 9d440G 9et80F 9d440G 9et80F 9eys0G 9d6w0F 9d1c0G 9d1c0F 9d1c0G",
     "9d1c0F 9d1c0G 9d1c0F 9d1c0G 9d1c0F 9d1c0H 9d440E 9d1c0H 9q000E 9d1c0H 9d1c0E 9d1c0H",
     "9d1c0E 9d1c0H 9d1c0E 9d1c0H 9d1c0E 9d1c0H 9d1c0E 9q000H asw00E 7x6o0H asw00E 7x6o0H",
     "asys0E 7x6o0H b5uo0E 19dc00H"],
    "EET-2EEST,M3.5.0/3,M10.5.0/4"⟩,
  ⟨["Europe/Tirane"],
    "4760/LMT 3600/CET 7200/CEST",
    ["-t85vo8B dt2gw8C 18pew0B 7k800C m800B g7ot40C 7rjw0B autg0C 7x3w0B ayis0C 7x3w0B b5xg0C",
     "7k580B b42s0C 7lzw0B b42s0C 7lzw0B b42s0C 7x3w0B ahus0C 7x3w0B b5xg0C 7x3w0B a4w40C",
     "8jbw0B 9eys0C 9d6w0B 9d1c0C 9d1c0B 9d1c0C 9d1c0B 9d1c0C 9d1c0B 9d1c0C 9d1c0B 9d1c0C",
     "9d1c0B 9d1c0C 9q000B 9d1c0C 9d1c0B 9d1c0C 9d1c0B 9d1c0C 9d1c0B 9d1c0C 9d1c0B 9d1c0C",
     "9d1c0B 9q000C"],
    "CET-1CEST,M3.5.0,M10.5.0/3"⟩,
  ⟨["Europe/Ulyanovsk"],
    "11616/LMT 10800/+03 14400/+04 18000/+05 7200/+02",
    ["-qcx400B 5q5zo0C qi27w0D 9et80C 9d440D 9et80C 9d440D 9et80C 9eys0D 9d6w0C 9d1c0D 9d1c0C",
     "9d1c0D 9d1c0C 9d1c0D 9d1c0C 9d1c0D 9d1c0C 9d1c0C 9d440B 9d1c0C 9q000B 9d1c0B 9d440E",
     "5reo0B 3ljw0C 9d1c0B 9d1c0C 9d1c0B 9d1c0C 9d1c0B 9d1c0C 9d1c0B 9q000C asw00B 7x6o0C",
     "asw00B 7x6o0C asw00B 7x6o0C b5uo0B 7k800C b5uo0B 7k800C b5uo0B 7x6o0C asw00B 7x6o0C",
     "asw00B 7x6o0C b5uo0B 7k800C b5uo0B 7k800C b5uo0B 7k800C b5uo0B 7x6o0C asw00B 7x6o0C",
     "asw00B 7x6o0C b5uo0B 7k800C 1vbzw0B qnc40C bdvvrjC"],
    "<+04>-4"⟩,
  ⟨["Europe/Vienna"],
    "3921/LMT 3600/CET 7200/CEST",
    ["-14211oxB c1n1gxC 7ves0B a4yw0C 7x6o0B asw00C 7x6o0B t6000C 8a5c0B a7a800C 1cm000B",
     "7k800C 9q000B 9d1c0C 9d1c0B 9d1c0C iio0B ivmo0C 91xc0B 9b6o0C 9d1c0B a2yo0C 8n400B",
     "gfyyg0C 8zzw0B 9d9o0C 9d1c0B 9d1c0C 9d1c0B 9d1c0C 9d1c0B 9d1c0C 9q000B 9d1c0C 9d1c0B",
     "9d1c0C 9d1c0B 9d1c0C 9d1c0B 9d1c0C 9d1c0B 9d1c0C 9d1c0B 9d1c0C 9q000B 9d1c0C 9d1c0B",
     "9d1c0C 9d1c0B 9d1c0C 9d1c0B 9d1c0C 9d1c0B 9d1c0C 9d1c0B 9q000C"],
    "CET-1CEST,M3.5.0,M10.5.0/3"⟩,
  ⟨["Europe/Vilnius"],
    "6076/LMT 5040/WMT 5736/KMT 3600/CET 7200/EET 10800/MSK 7200/CEST 14400/MSD 10800/EEST",
    ["-1ayy7csB jb5y4sC 1g224oD e75ncE 4kqk0D acbs40F gpp40G pits0D 7k800G 9q000D 9d1c0G",
     "65zo0F j4vx80H 9et80F 9d440H 9et80F 9d440H 9et80F 9eys0H 9d6w0F 9d1c0H 9d1c0F 9d1c0H",
     "9d1c0F 9d1c0H 9d1c0F 9d1c0H 9d1c0F 9d1c0I 9d440E 9d1c0I 9q000E 9d1c0I 9d1c0E 9d1c0I",
     "9d1c0E 9d1c0I 9d1c0E 9d1c0I 9d1c0E 9d1c0I 9d1c0E 9q000I asw00E 7x6o0I asw00E 7x9g0G",
     "asw00D 7x6o0G b5uo0E 1s3eo0I"],
    "EET-2EEST,M3.5.0/3,M10.5.0/4"⟩,
  ⟨["Europe/Volgograd"],
    "10660/LMT 10800/+03 14400/+04 18000/+05 14400/MSD 10800/MSK 14400/MSK",
    ["-q3cw84B 5glrw4C qi27w0D 9et80C 9d440D 9et80C 9d440D 9et80C 9eys0D 9d6w0C 9d1c0D 9d1c0C",
     "9d1c0D 9d1c0C 9d1c0D 9d1c0C 9d1c0E 9d440F 9d1c0E 9d1c0F 9d1c0E 9q000F 9d1c0C ipzw0E",
     "9d440F 9d1c0E 9d1c0F 9d1c0E 9d1c0F 9d1c0E 9d1c0F 9q000E asw00F 7x6o0E asw00F 7x6o0E",
     "asw00F 7x6o0E b5uo0F 7k800E b5uo0F 7k800E b5uo0F 7x6o0E asw00F 7x6o0E asw00F 7x6o0E",
     "b5uo0F 7k800E b5uo0F 7k800E b5uo0F 7k800E b5uo0F 7x6o0E asw00F 7x6o0E asw00F 7x6o0E",
     "b5uo0F 7k800G 1vbzw0F 239c40C 14oqk0F"],
    "MSK-3"⟩,
  ⟨["Europe/Warsaw", "Poland"],
    "5040/LMT 5040/WMT 3600/CET 7200/CEST 7200/EET 10800/EEST",
    ["-1ayy6k0B iko800C dvyc0D 7ves0C a4yw0D 7x6o0C asw00D 7x6o0E aunw0F 7x6o0E 1evbs0C",
     "9fcwc0D 18cao0C 7k800D 9q000C 9d1c0D 9gnw0C an980D 9kd80C 8fs40D 922w0C ar1c0D 7x6o0C",
     "a2yo0D 8n400C 9q000D 902o0C 4013w0D 64dc0C 9d1c0D 9d1c0C clpc0D 6hc00C 9d1c0D 9d1c0C",
     "c8qo0D 6hc00C c8qo0D 6hc00C c8qo0D 6hc00C clpc0D 64dc0C 6j4tc0D 902o0C 9q000D 9d1c0C",
     "9d1c0D 9d1c0C 9q000D 902o0C 9d1c0D 9d1c0C 9d1c0D 9d1c0C 9d1c0D 9d1c0C 9d1c0D 9q000C",
     "9d1c0D 9d1c0C 9d1c0D 9d1c0C 9d1c0D 9d1c0C 9d440D 9d1c0C 9d1c0D 9d1c0C 9d1c0D 9q000C",
     "9d1c0D 9d1c0C 9d1c0D 9d1c0C 9d1c0D 9d1c0C 9d1c0D 9d1c0C 9d1c0D 9d1c0C 9q000D"],
    "CET-1CEST,M3.5.0,M10.5.0/3"⟩,
  ⟨["Europe/Zurich", "Europe/Busingen", "Europe/Vaduz"],
    "2048/LMT 1786/BMT 3600/CET 7200/CEST",
    ["-1os49kwB lc05jaC ohmxdmD 7x6o0C asw00D 7x6o0C k2zus0D 9d1c0C 9d1c0D 9d1c0C 9d1c0D",
     "9d1c0C 9d1c0D 9q000C 9d1c0D 9d1c0C 9d1c0D 9d1c0C 9d1c0D 9d1c0C 9d1c0D 9d1c0C 9d1c0D",
     "9d1c0C 9d1c0D 9q000C 9d1c0D 9d1c0C 9d1c0D 9d1c0C 9d1c0D 9d1c0C 9d1c0D 9d1c0C 9d1c0D",
     "9d1c0C 9q000D"],
    "CET-1CEST,M3.5.0,M10.5.0/3"⟩]

/-- The regions filed under short names. -/
def short : List ZoneRecord := [
  ⟨["Factory"],
    "0/-00",
    [],
    "<-00>0"⟩]

/-- The regions filed under Indian. -/
def indian : List ZoneRecord := [
  ⟨["Indian/Chagos"],
    "17380/LMT 18000/+05 21600/+06",
    ["-wvpc2sB 1ag64usC ly387jC"],
    "<+06>-6"⟩,
  ⟨["Indian/Maldives", "Indian/Kerguelen"],
    "17640/LMT 17640/MMT 18000/+05",
    ["-1ayyga0B 15r19c0C 14qh7xjC"],
    "<+05>-5"⟩,
  ⟨["Indian/Mauritius"],
    "13800/LMT 14400/+04 18000/+05",
    ["-wvp9bcB 13jnu7cC 8bx80B dd0wc0C 7x3w0B f1binjB"],
    "<+04>-4"⟩]

/-- The regions filed under Pacific. -/
def pacific : List ZoneRecord := [
  ⟨["Pacific/Apia"],
    "45184/LMT -41216/LMT -41400/-1130 -39600/-11 -36000/-10 50400/+14 46800/+13",
    ["-14fxxj4B 9nfeo0C kcrmt4D vp3la0E 9odo0D 902o0E 4zbk0F 4qog0G 9d1c0F 9q000G 902o0F",
     "9q000G 902o0F 9q000G 902o0F 9q000G 902o0F 9q000G 902o0F 9q000G 9d1c0F 9q000G 902o0F",
     "9q000G 902o0F 9q000G 8rka3jG"],
    "<+13>-13"⟩,
  ⟨["Pacific/Auckland", "Antarctica/McMurdo", "Antarctica/South_Pole", "NZ"],
    "41944/LMT 41400/NZMT 45000/NZST 43200/NZST 46800/NZDT",
    ["-1gsoz14B usn9z4C 64ak0B biw40D 7x5a0B asxe0D 7x5a0B asxe0D 7x5a0B asxe0D 8a3y0B afyq0D",
     "8a3y0B afyq0D afvy0B 7x820D asum0B 7x820D asum0B 7x820D asum0B 7x820D asum0B 7x820D",
     "b5ta0B 7k9e0D b5ta0B 7x820D 2qrd20D f1tpk0E 5reo0D clpc0E 6uao0D c8qo0E 6hc00D c8qo0E",
     "6hc00D c8qo0E 6hc00D c8qo0E 6hc00D c8qo0E 6hc00D c8qo0E 6uao0D c8qo0E 6hc00D c8qo0E",
     "6hc00D c8qo0E 6hc00D c8qo0E 6hc00D c8qo0E 6hc00D c8qo0E 6uao0D c8qo0E 6hc00D b5uo0E",
     "8a5c0D afxc0E 8a5c0D afxc0E 8a5c0D afxc0E 8n400D a2yo0E 8n400D a2yo0E 8n400D a2yo0E",
     "8n400D afxc0E 8a5c0D afxc0E 8a5c0D afxc0E 8n400D a2yo0E 8n400D a2yo0E 8n400D afxc0E",
     "8a5c0D afxc0E 8a5c0D afxc0E 8n400D a2yo0E 8n400D a2yo0E 8n400D a2yo0E 8n400D a2yo0E"],
    "NZST-12NZDT,M9.5.0,M4.1.0/3"⟩,
  ⟨["Pacific/Bougainville"],
    "37336/LMT 35312/PMMT 36000/+10 32400/+09 39600/+11",
    ["-1ayyvh4B 7tuc88C osc24wD 1n05g0C 1071c40E c1b0jjE"],
    "<+11>-11"⟩,
  ⟨["Pacific/Chatham", "NZ-CHAT"],
    "44028/LMT 44100/+1215 45900/+1245 49500/+1345",
    ["-1gsp0n0B 149qqm0C f1tq90D 5reo0C clpc0D 6uao0C c8qo0D 6hc00C c8qo0D 6hc00C c8qo0D",
     "6hc00C c8qo0D 6hc00C c8qo0D 6hc00C c8qo0D 6uao0C c8qo0D 6hc00C c8qo0D 6hc00C c8qo0D",
     "6hc00C c8qo0D 6hc00C c8qo0D 6hc00C c8qo0D 6uao0C c8qo0D 6hc00C b5uo0D 8a5c0C afxc0D",
     "8a5c0C afxc0D 8a5c0C afxc0D 8n400C a2yo0D 8n400C a2yo0D 8n400C a2yo0D 8n400C afxc0D",
     "8a5c0C afxc0D 8a5c0C afxc0D 8n400C a2yo0D 8n400C a2yo0D 8n400C afxc0D 8a5c0C afxc0D",
     "8a5c0C afxc0D 8n400C a2yo0D 8n400C a2yo0D 8n400C a2yo0D 8n400C a2yo0D 9q000C 902o0D",
     "9q000C 902o0D 9q000C 902o0D 9q000C 902o0D 9q000C 9d1c0D 9q000C 902o0D 9q000C 902o0D",
     "9q000C 902o0D 9q000C 902o0D 9q000C 902o0D 9q000C 9d1c0D 9q000C 902o0D 9q000C 902o0D",
     "9q000C 902o0D 9q000C 902o0D 9q000C 902o0D a2yo0C 902o0D 9q000C 902o0D 9q000C 902o0D",
     "9q000C 902o0D 9q000C 902o0D 9q000C 9d1c0D 9q000C 902o0D 9q000C 902o0D 9q000C 902o0D",
     "9q000C 902o0D 9q000C 902o0D 9q000C 9d1c0D 9q000C 902o0D 9q000C 902o0D 5w4rjD"],
    "<+1245>-12:45<+1345>,M9.5.0/2:45,M4.1.0/3:45"⟩,
  ⟨["Pacific/Easter", "Chile/EasterIsland"],
    "-26248/LMT -26248/EMT -25200/-07 -21600/-06 -18000/-05",
    ["-15r0p2wB m9leo0C ivmeuwD 7k580C c8tg0D 6h980C a31g0D 7x3w0C asys0D 7x3w0C b5xg0D 7k580C",
     "ag040D 8a2k0C b5xg0D 7k580C b5xg0D 7x3w0C asys0D 7x3w0C asys0D 7x3w0C b5xg0D 7k580C",
     "b5xg0D 7k580C b5xg0D 7x3w0C asys0D 7x3w0D asys0E 7x3w0D asys0E 7x3w0D b5xg0E 7k580D",
     "b5xg0E 7k580D b5xg0E 9cyk0D 9d440E 7x3w0D asys0E 7x3w0D b5xg0E 7k580D 9q2s0E 8zzw0D",
     "b5xg0E 7x3w0D asys0E 7x3w0D asys0E 7x3w0D asys0E 7x3w0D b5xg0E 7k580D b5xg0E 8n180D",
     "a31g0E 7x3w0D a31g0E 9px80D 9q2s0E 7x3w0D b5xg0E 7k580D b5xg0E 7k580D b5xg0E 7k580D",
     "b5xg0E 7x3w0D asys0E 7x3w0D asys0E 7x3w0D b5xg0E 7k580D b5xg0E 8n180D a31g0E 7x3w0D",
     "asys0E 8zzw0D 9q2s0E ast80D 5eis0E cyl80D 6hes0E c8nw0D 6udg0E bvp80D 6udg0E vonw0D",
     "4olg0E e1h80D 4olg0E e1h80D 4olg0E c8nw0D 7x9g0E ast80D 7x9g0E ast80D 7x9g0E ast80D",
     "8a840E afuk0D 7x9g0E b5rw0D 7x9g0E ast80D 7x9g0E ast80D 7x9g0E ast80D 7x9g0E ast80D",
     "7x9g0E b5rw0D 7kas0E b5rw0D 7x9g0E ast80D 7x9g0E ast80D 7x9g0E ast80D 7x9g0E ast80D",
     "7x9g0E b5rw0D 7kas0E b5rw0D 7x9g0E ast80D 7x9g0E 6xxvjE"],
    "<-06>6<-05>,M9.1.6/22,M4.1.6/22"⟩,
  ⟨["Pacific/Efate"],
    "40396/LMT 39600/+11 43200/+12",
    ["-u964i4B wbu364C 51hc0B 4y8qs0C 9cyk0B 9d440C 9cyk0B 9q2s0C 8zzw0B 9q2s0C 9cyk0B 9d440C",
     "9cyk0B 9d440C 9cyk0B 9d440C 9cyk0B 9d440C 9cyk0B 9q2s0C 64ak0B e1ms0C 4ofw0B nh8ybjB"],
    "<+11>-11"⟩,
  ⟨["Pacific/Fakaofo"],
    "-41096/LMT -39600/-11 46800/+13",
    ["-100dhmgB 1lxe1igC dljh3jC"],
    "<+13>-13"⟩,
  ⟨["Pacific/Fiji"],
    "42944/LMT 43200/+12 46800/+13",
    ["-sa2x4wB 17bs00wC 64dc0B cyo00C 5reo0B 53a5c0C 64dc0B asw00C 6uao0B bvs00C 4oio0B e1k00C",
     "4oio0B eeio0C 4bh80B erk40C 3ylc0B erhc0C 3ylc0B f4g00C 3lmo0B f4g00C 3lmo0B f4g00C",
     "3lmo0B fheo0C 38o00B hn6o0C 1fuo0B 8vivfjB"],
    "<+12>-12"⟩,
  ⟨["Pacific/Galapagos"],
    "-21504/LMT -18000/-05 -21600/-06",
    ["-kcr62oB spdryoC 3lsas0B 3jp80C nglf3jC"],
    "<-06>6"⟩,
  ⟨["Pacific/Gambier"],
    "-32388/LMT -32400/-09",
    ["-tvndocB 1te7envB"],
    "<-09>9"⟩,
  ⟨["Pacific/Guadalcanal", "Pacific/Pohnpei", "Pacific/Ponape"],
    "38388/LMT 39600/+11",
    ["-tvowacB 1te8x9vB"],
    "<+11>-11"⟩,
  ⟨["Pacific/Guam", "Pacific/Saipan"],
    "-51660/LMT 34740/LMT 36000/GST 32400/+09 39600/GDT 36000/ChST",
    ["-1t8j1h0B t83xc0C ld6pp0D 1dl9g0C 7s1k40E txp80C 3frms0E qdrpoC 7kgacE 3ljw0C c8tg0E",
     "6u7w0C bvus0E 6u7w0C 16uo40E 3ljw0C 16aas0E 4ivxoC cls2cE 6h980C c65zw0F"],
    "ChST-10"⟩,
  ⟨["Pacific/Honolulu", "HST", "Pacific/Johnston", "US/Hawaii"],
    "-37886/LMT -37800/HST -34200/HDT -34200/HWT -34200/HPT -36000/HST",
    ["-12lnw3mB jgnatmC 13l00B 4jvb00D 1tyvu0E 2e5e0B votg0F"],
    "HST10"⟩,
  ⟨["Pacific/Kanton", "Pacific/Enderbury"],
    "0/-00 -43200/-12 -39600/-11 46800/+13",
    ["-gvk800B lypqo0C 7yiqk0D mgvrrjD"],
    "<+13>-13"⟩,
  ⟨["Pacific/Kiritimati"],
    "-37760/LMT -38400/-1040 -36000/-10 50400/+14",
    ["-100dk74B 153iz5sC 7yirhcD mgvujjD"],
    "<+14>-14"⟩,
  ⟨["Pacific/Kosrae"],
    "-47284/LMT 39116/LMT 39600/+11 32400/+09 36000/+10 43200/+12",
    ["-1t8j4ukB t83xc0C 76a4ykD 29hhk0C 9cmd40E 27sas0D 29fk40C cm2540F f9l3w0C kdq4zjC"],
    "<+11>-11"⟩,
  ⟨["Pacific/Kwajalein", "Kwajalein"],
    "40160/LMT 39600/+11 36000/+10 32400/+09 -43200/-12 43200/+12",
    ["-100f8bkB ise0fkC 27sas0D 1hjus0B ddxug0E cgv6k0F n6g2bjF"],
    "<+12>-12"⟩,
  ⟨["Pacific/Marquesas"],
    "-33480/LMT -34200/-0930",
    ["-tvncu0B 1te7dtjB"],
    "<-0930>9:30"⟩,
  ⟨["Pacific/Nauru"],
    "40060/LMT 41400/+1130 32400/+09 43200/+12",
    ["-pjxiwsB ba66ysC 1kwca0B hfzda0D urfndjD"],
    "<+12>-12"⟩,
  ⟨["Pacific/Niue"],
    "-40780/LMT -40800/-1120 -39600/-11",
    ["-8zbv78B 63yiokC 12dxdi7C"],
    "<-11>11"⟩,
  ⟨["Pacific/Norfolk"],
    "40312/LMT 40320/+1112 41400/+1130 45000/+1230 39600/+11 43200/+12",
    ["-100f8fsB q3einsC cfj8q0D 6hc00C l6nk00E 239aq0F 9d1c0E 9d1c0F 9d1c0E 9d1c0F 9d1c0E",
     "9d1c0F 9d1c0E 9d1c0F 9q000E 9d1c0F 9d1c0E 9d1c0F 9d1c0E 9d1c0F 9d1c0E 9d1c0F 9d1c0E",
     "9d1c0F 9d1c0E 9q000F 9d1c0E 9d1c0F 9d1c0E 9d1c0F 9d1c0E 9d1c0F 9d1c0E 9d1c0F 9d1c0E",
     "9d1c0F 9d1c0E 9q000F 9d1c0E 9d1c0F 9d1c0E 9d1c0F 5j3bjF"],
    "<+11>-11<+12>,M10.1.0,M4.1.0/3"⟩,
  ⟨["Pacific/Noumea"],
    "39948/LMT 39600/+11 43200/+12",
    ["-u9645oB ye0ixoC 4dbw0B ecqs0C 4f6k0B 99p700C 4oio0B lc6nbjB"],
    "<+11>-11"⟩,
  ⟨["Pacific/Pago_Pago", "Pacific/Midway", "Pacific/Samoa", "US/Samoa"],
    "45432/LMT -40968/LMT -39600/SST",
    ["-14fxxq0B 9nfeo0C"],
    "SST11"⟩,
  ⟨["Pacific/Palau"],
    "-54124/LMT 32276/LMT 32400/+09",
    ["-1t8izkkB t83xc0C 1ziz383C"],
    "<+09>-9"⟩,
  ⟨["Pacific/Pitcairn"],
    "-31220/LMT -30600/-0830 -28800/-08",
    ["-100dp8sB 1esg26sC kqho1jC"],
    "<-08>8"⟩,
  ⟨["Pacific/Port_Moresby", "Antarctica/DumontDUrville", "Pacific/Chuuk", "Pacific/Truk",
    "Pacific/Yap"],
    "35320/LMT 35312/PMMT 36000/+10",
    ["-1ayytx4B 7tuao8C 22nok8fC"],
    "<+10>-10"⟩,
  ⟨["Pacific/Rarotonga"],
    "48056/LMT -38344/LMT -37800/-1030 -34200/-0930 -36000/-10",
    ["-10jifqwB rk6io0C dlv68wD 5rbw0E c8s20D 6ham0E c8s20D 6ham0E c8s20D 6u9a0E c8s20D 6ham0E",
     "c8s20D 6ham0E c8s20D 6ham0E c8s20D 6ham0E c8s20D 6ham0E c8s20D 6u9a0E c8s20D 6ham0E",
     "c8s20D 6ham0E c8s20D 6ham0E ogumljE"],
    "<-10>10"⟩,
  ⟨["Pacific/Tahiti"],
    "-35896/LMT -36000/-10",
    ["-tvnaywB 1te7byfB"],
    "<-10>10"⟩,
  ⟨["Pacific/Tarawa", "Pacific/Funafuti", "Pacific/Majuro", "Pacific/Wake", "Pacific/Wallis"],
    "41524/LMT 43200/+12",
    ["-100f9dgB 1zizaczB"],
    "<+12>-12"⟩,
  ⟨["Pacific/Tongatapu"],
    "44352/LMT 44400/+1220 46800/+13 50400/+14",
    ["-corjk0B 7znjyoC k8amdcD 8fpc0C bvs00D 4bh80C eelg0D 4bh80C 7pmis0D 3lmo0C ays7jjC"],
    "<+13>-13"⟩]

/-- Every region on record. -/
def all : List ZoneRecord :=
  africa ++ america ++ antarctica ++ asia ++ atlantic ++ australia ++ nautical ++
    europe ++ short ++ indian ++ pacific

end ZoneRecord

end PathQuery
